/-
# Invocations

A command line calls one of three commands on a program file (`lex` shows its tokens, `parse`
its tree, `run` runs it) or, without a command, starts a session.  The command is the first
word that is neither a flag nor the value of one.  What a command does depends on the settings
and on the file; both are handed in, so that an invocation is a function.
-/
import LineBasic.CommandLine.Settings
import LineBasic.Console.Typing

namespace LineBasic.CommandLine

/-! ## 1. Commands -/

/-- The name of the tool. -/
def toolName : String := "lpi"

/-- The version of the tool. -/
def version : String := "0.1 experimental"

/-- What the tool adds to the help text of the console. -/
def helpText : String := "
lpi will interpret the following statements:

  ⟨n⟩ ⟨statement⟩           : store a program line, replacing line ⟨n⟩
  ⟨n⟩                       : delete program line ⟨n⟩
  ⟨statement⟩               : execute a statement immediately
  LET ⟨var⟩ = ⟨expr⟩        : assignment (LET may be omitted)
  LET ⟨var⟩(⟨expr⟩) = ⟨expr⟩ : assignment to an array element
  PRINT ⟨expr⟩ ; …          : print strings and values
  run                       : run the program
  list                      : list the program
  vars                      : show all variables
  new                       : clear program and variables
  load ⟨file⟩               : load a program from a file

"

/-- What a command line calls. -/
inductive Command where
  | lex
  | parse
  | run
  /-- A session, if no command is named. -/
  | session
  deriving DecidableEq, Repr

/-- The command with a name. -/
def Command.named? (word : String) : Option Command :=
  if word = "lex" then some .lex
  else if word = "parse" then some .parse
  else if word = "run" then some .run
  else none

/-- The flags that every command knows. -/
def commonFlags : List Flag :=
  [⟨"interactive", some 'i', .switch⟩, ⟨"logfile", none, .text⟩,
    ⟨"arrays.size", none, .integer⟩, ⟨"format", some 'f', .text⟩]

/-- The flags that a command knows. -/
def Command.flags : Command → List Flag
  | .run => ⟨"vars", none, .switch⟩ :: commonFlags
  | _ => commonFlags

/-! ## 2. Finding the command -/

/-- The word is a flag that takes the next word as its value, as far as it can be told before the
command is known: a flag that is not known counts as one that does. -/
def takesValue (word : String) : Bool :=
  let cs := word.toList
  let isSwitch := fun (p : Flag → Bool) => commonFlags.any fun f => p f && f.kind = .switch
  if cs.contains '=' then false
  else
    match cs with
    | '-' :: '-' :: name => !isSwitch (·.name = String.ofList name)
    | ['-', c] => c.utf8Size = 1 && !isSwitch (·.short = some c)
    | _ => false

/-- The words that are neither flags nor their values.  A flag that takes a value ends the search
if at most one word follows it. -/
def commandWords : List String → List String
  | [] => []
  | word :: rest =>
    if word = "--" then []
    else if takesValue word then
      match rest with
      | _ :: next :: rest => commandWords (next :: rest)
      | _ => []
    else if word = "" || word.startsWith "-" then commandWords rest
    else word :: commandWords rest

/-- The command that words call, and the words without its name. -/
def findCommand (words : List String) : Command × List String :=
  match commandWords words with
  | word :: _ =>
    match Command.named? word with
    | some command => (command, words.erase word)
    | none => (.session, words)
  | [] => (.session, words)

/-! ## 3. Reading a command line -/

/-- Why a command line cannot be carried out. -/
inductive UsageError where
  | flag (e : FlagError)
  | argumentCount (received : Nat)
  | unknownCommand (word : String)

/-- The text of a usage error. -/
def UsageError.message : UsageError → String
  | .flag e => e.message
  | .argumentCount received => s!"accepts 1 arg(s), received {received}"
  | .unknownCommand word =>
    "unknown command " ++ Text.quoted word ++ " for " ++ Text.quoted toolName

/-- A command line that can be carried out. -/
structure Invocation where
  command : Command
  /-- The program file; none for a session. -/
  file : Option String
  given : Given

/-- Reads a command line.  Trouble with flags comes before trouble with arguments. -/
def Invocation.read (words : List String) : Except UsageError Invocation :=
  let (command, words) := findCommand words
  match readFlags command.flags words with
  | .error e => .error (.flag e)
  | .ok given =>
    match command, given.arguments with
    | .session, [] => .ok ⟨command, none, given⟩
    | .session, word :: _ => .error (.unknownCommand word)
    | _, [file] => .ok ⟨command, some file, given⟩
    | _, arguments => .error (.argumentCount arguments.length)

/-- The file name that stands for the standard input. -/
def standardInput : String := "-"

/-- The invocation starts a session. -/
def Invocation.isSession (inv : Invocation) : Bool :=
  inv.command = .session || (inv.command = .run && inv.given.isOn "interactive")

/-! ## 4. Carrying it out -/

/-- What came of an invocation: its exit code and its output. -/
structure Outcome where
  code : Nat
  output : List String
  errors : List String

/-- The last line on the error output if an invocation fails. -/
def complaint (message : String) : String := toolName ++ ": " ++ message ++ "\n"

/-- The exit code for an error: one if the program failed while it ran, two otherwise. -/
def exitCode : Error → Nat
  | .atLine _ _ => 1
  | _ => 2

/-- The outcome of an invocation that wrote something and perhaps failed. -/
def outcome (output errors : List String) : Option Error → Outcome
  | none => ⟨0, output, errors⟩
  | some e => ⟨exitCode e, output, errors ++ [complaint e.message]⟩

/-- The tokens of a program, one on a line. -/
def showTokens (source : String) : Outcome :=
  outcome ((Token.tokens source).map fun t => Text.quoted t ++ "\n") [] none

/-- The tree of a program. -/
def showTree (source : String) : Outcome :=
  outcome [(Source.program (Source.lines source)).dump] [] none

/-- Takes in a program that is to be run. -/
def loadProgram (settings : Settings) (source : String) : Turn (List Error) :=
  (Interpreter.new settings.arraySize).load {} source

/-- The warnings about a program that was taken in, as they are shown. -/
def warnings (loaded : Turn (List Error)) : List String :=
  loaded.answer.map fun e => (Display.Item.error e).consoleText

/-- Runs a program.  Variables are shown also if it failed, and trouble with showing them counts
more than the failure. -/
def runProgram (settings : Settings) (showVars : Bool) (source : String) : Outcome :=
  let loaded := loadProgram settings source
  let ran := loaded.interpreter.run {}
  let writes := loaded.writes ++ ran.writes
  if showVars then
    match (Display.showVariables none ran.interpreter.store settings.format).text with
    | .ok text => outcome (writes ++ [text]) (warnings loaded) ran.answer
    | .error e => outcome writes (warnings loaded) (some e)
  else outcome writes (warnings loaded) ran.answer

/-- The session that an invocation starts, with a program loaded if there is one. -/
def openSession (settings : Settings) (source : String) : Reply :=
  let c := Console.new toolName version helpText settings.format settings.arraySize
  let r := if source = "" then c.silent else c.load source
  { r with errors := r.errors ++ [c.welcome] }

/-- A session from its start to the end of its input. -/
def runSession (settings : Settings) (read : FileReader) (source input : String) : Outcome :=
  let opened := openSession settings source
  let lines := (Console.typing [] input.toList).all
  let replies := opened :: opened.console.answerAll read lines
  outcome (replies.flatMap (·.output)) (replies.flatMap (·.errors)) none

/-- Carries out an invocation, given its program text and what remains of the input. -/
def Invocation.carryOut (inv : Invocation) (config : Configuration) (read : FileReader)
    (source input : String) : Outcome :=
  let settings := Settings.of inv.given config
  let source := Text.normalized source
  if inv.isSession then runSession settings read source input
  else
    match inv.command with
    | .lex => showTokens source
    | .parse => showTree source
    | _ => runProgram settings (inv.given.isOn "vars") source

/-- Carries out a command line. -/
def invoke (words : List String) (config : Configuration) (read : FileReader)
    (input : String) : Outcome :=
  match Invocation.read words with
  | .error e => ⟨2, [], [complaint e.message]⟩
  | .ok inv =>
    match inv.file with
    | none => inv.carryOut config read "" input
    | some file =>
      if file = standardInput then inv.carryOut config read input ""
      else
        match read file with
        | .ok source => inv.carryOut config read source input
        | .error problem => outcome [] [] (some (.file file problem))

end LineBasic.CommandLine
