/-
# Settings

Two things can be set, on the command line or in a configuration file: the format in which
variables are shown and the size of arrays that come into being by access.  The command line
wins.  A configuration file has lines `key: value`, and indented lines below a line `key:`;
blank lines and comments, which start with `#`, say nothing.
-/
import LineBasic.CommandLine.Flag
import LineBasic.Number.Literal
import LineBasic.Store

namespace LineBasic.CommandLine

/-! ## 1. Configuration files -/

/-- What a configuration file says. -/
structure Configuration where
  format : Option String := none
  arraySize : Option String := none

/-- The key and the value of a line; the value comes after a colon and a blank. -/
def keyValue (line : List Char) : String × String :=
  let (key, rest) := line.span (· ≠ ':')
  (String.ofList key, String.ofList (rest.drop 2))

/-- Whether a line says something. -/
def isEntry (line : String) : Bool :=
  match line.toList.dropWhile (· = ' ') with
  | [] => false
  | c :: _ => c ≠ '#'

/-- Takes in one line, below the section that the last line without indentation opened. -/
def Configuration.addLine (state : Configuration × String) (line : String) :
    Configuration × String :=
  let (config, group) := state
  let cs := line.toList
  let (key, value) := keyValue (cs.dropWhile (· = ' '))
  if cs.head? = some ' ' then
    if group = "arrays" && key = "size" then ({ config with arraySize := some value }, group)
    else state
  else if key = "format" then ({ config with format := some value }, key)
  else (config, key)

/-- What the text of a configuration file says. -/
def Configuration.read (text : String) : Configuration :=
  (((text.splitOn "\n").filter isEntry).foldl Configuration.addLine ({}, "")).1

/-- Where the configuration file of the tool may be, below the home directory. -/
def configurationPaths : List String := [".lpi.nt", ".config/lpi/config.nt"]

/-- The configuration in the first of the files that can be read. -/
def Configuration.ofFirst (files : List (Except FileProblem String)) : Configuration :=
  match files.findSome? Except.toOption with
  | some text => Configuration.read text
  | none => {}

/-- The whole part of a decimal as a size; what is no decimal is zero. -/
def sizeOfText (text : String) : Int :=
  match Number.Decimal.read? text.toList with
  | some d =>
    match Number.Binary64.ofFloat d.toFloat with
    | .finite false steps =>
      let n := steps / Number.one
      if n < Nat.pow 2 63 then n else 0
    | _ => 0
  | none => 0

/-! ## 2. Settings -/

/-- What is set. -/
structure Settings where
  format : String
  arraySize : Int

/-- The format if none is set. -/
def defaultFormat : String := "table"

/-- The settings of a command line and a configuration file. -/
def Settings.of (given : Given) (config : Configuration) : Settings :=
  let format := ((given.value? "format").or config.format).getD ""
  let size :=
    match given.value? "arrays.size" with
    | some text => (match Number.integer text with
      | .ok n => n
      | .error _ => 0)
    | none =>
      match config.arraySize with
      | some text => sizeOfText text
      | none => Store.defaultArraySize
  ⟨if format = "" then defaultFormat else format, size⟩

end LineBasic.CommandLine
