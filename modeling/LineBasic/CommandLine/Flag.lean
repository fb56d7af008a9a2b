/-
# Flags

The words of a command line are flags or arguments.  A long flag is `--name=value` or
`--name value`, a short one `-f value`, `-fvalue` or `-f=value`; a switch needs no value and takes
one only after an equals sign.  Short switches may be grouped, the last of a group perhaps with
a value.  `--` ends the flags.  The words are read from left to right and the first trouble met
is the one reported; of a flag given twice the last counts.
-/
import LineBasic.Number.Integer
import LineBasic.Text.Quoted

namespace LineBasic.CommandLine

/-! ## 1. Flags and what can be wrong with them -/

/-- What a flag takes. -/
inductive FlagKind where
  | switch
  | integer
  | text
  deriving DecidableEq, Repr

/-- A flag that a command knows. -/
structure Flag where
  name : String
  short : Option Char
  kind : FlagKind

/-- A flag as it is called in messages. -/
def Flag.label (f : Flag) : String :=
  match f.short with
  | some c => "-" ++ String.ofList [c] ++ ", --" ++ f.name
  | none => "--" ++ f.name

/-- Why the words of a command line cannot be read. -/
inductive FlagError where
  | badForm (word : String)
  | unknown (name : String)
  | unknownShort (flag : Char) (group : String)
  | noValue (word : String)
  | noValueShort (flag : Char) (group : String)
  | invalidValue (flag : Flag) (value : String) (reason : String)

/-- A character in single quotes. -/
def quotedChar (c : Char) : String :=
  if c.toNat = 0x27 then "'\\''"
  else if c = '"' then "'\"'"
  else "'" ++ String.ofList (Text.escaped c) ++ "'"

/-- The text of a flag error. -/
def FlagError.message : FlagError → String
  | .badForm word => "bad flag syntax: " ++ word
  | .unknown name => "unknown flag: --" ++ name
  | .unknownShort flag group => "unknown shorthand flag: " ++ quotedChar flag ++ " in -" ++ group
  | .noValue word => "flag needs an argument: " ++ word
  | .noValueShort flag group => "flag needs an argument: " ++ quotedChar flag ++ " in -" ++ group
  | .invalidValue flag value reason =>
    "invalid argument " ++ Text.quoted value ++ " for " ++ Text.quoted flag.label ++ " flag: "
      ++ reason

/-! ## 2. Values -/

/-- The words for true and false. -/
def readSwitch? (value : String) : Option Bool :=
  if ["1", "t", "T", "TRUE", "true", "True"].contains value then some true
  else if ["0", "f", "F", "FALSE", "false", "False"].contains value then some false
  else none

/-- The text of an integer error. -/
def integerReason (value : String) : Number.IntegerError → String
  | .malformed => "strconv.ParseInt: parsing " ++ Text.quoted value ++ ": invalid syntax"
  | .outOfRange => "strconv.ParseInt: parsing " ++ Text.quoted value ++ ": value out of range"

/-- The values given on a command line, the last first, and its arguments. -/
structure Given where
  values : List (String × String)
  arguments : List String

/-- The value given to a flag. -/
def Given.value? (g : Given) (name : String) : Option String :=
  (g.values.find? (·.1 = name)).map (·.2)

/-- A switch is on. -/
def Given.isOn (g : Given) (name : String) : Bool :=
  ((g.value? name).bind readSwitch?).getD false

/-- Why a flag does not take a value, if it does not. -/
def Flag.complaint? (f : Flag) (value : String) : Option FlagError :=
  match f.kind with
  | .text => none
  | .switch =>
    if (readSwitch? value).isSome then none
    else some (.invalidValue f value
      ("strconv.ParseBool: parsing " ++ Text.quoted value ++ ": invalid syntax"))
  | .integer =>
    match Number.integer value with
    | .ok _ => none
    | .error e => some (.invalidValue f value (integerReason value e))

/-- Gives a flag a value. -/
def Given.set (g : Given) (f : Flag) (value : String) : Except FlagError Given :=
  match f.complaint? value with
  | some e => .error e
  | none => .ok { g with values := (f.name, value) :: g.values }

/-! ## 3. Reading words -/

/-- A group of short flags has been read: what is given, and the last flag of the group with the
group from there on if it still needs a value. -/
structure Group where
  given : Given
  open? : Option (Flag × Char × String)

/-- The first byte of a text, as a character: short flags are looked up byte by byte. -/
def firstByte (cs : List Char) : Char :=
  match (String.ofList cs).toUTF8.toList with
  | b :: _ => Char.ofNat b.toNat
  | [] => Char.ofNat 0

/-- What is left of a group speaks to a test run of the tool and not to the tool. -/
def isForTestRun (group : List Char) : Bool := "test.".toList.isPrefixOf group

/-- Reads a group of short flags.  What speaks to a test run is passed over. -/
def readGroup (flags : List Flag) (g : Given) : List Char → Except FlagError Group
  | [] => .ok ⟨g, none⟩
  | c :: cs =>
    if isForTestRun (c :: cs) then .ok ⟨g, none⟩
    else
      match flags.find? (·.short = some c) with
      | none => .error (.unknownShort (firstByte (c :: cs)) (String.ofList (c :: cs)))
      | some f =>
        match cs with
        | '=' :: d :: value => (g.set f (String.ofList (d :: value))).map fun g => ⟨g, none⟩
        | _ =>
          if f.kind = .switch then
            match g.set f "true" with
            | .error e => .error e
            | .ok g => readGroup flags g cs
          else if cs.isEmpty then .ok ⟨g, some (f, c, String.ofList [c])⟩
          else (g.set f (String.ofList cs)).map fun g => ⟨g, none⟩

/-- The name of a long flag and the value after its equals sign. -/
def splitLong (cs : List Char) : String × Option String :=
  let (name, rest) := cs.span (· ≠ '=')
  (String.ofList name, if rest.isEmpty then none else some (String.ofList (rest.drop 1)))

/-- Gives a flag the next word as its value. -/
def takeNext (g : Given) (f : Flag) (missing : FlagError) :
    List String → Except FlagError (Given × List String)
  | [] => .error missing
  | value :: rest => (g.set f value).map fun g => (g, rest)

/-- Reads one word that is a long flag, and the word after it if that is its value. -/
def readLong (flags : List Flag) (g : Given) (word : String) (cs : List Char)
    (rest : List String) : Except FlagError (Given × List String) :=
  if cs.head? = some '-' || cs.head? = some '=' then .error (.badForm word)
  else
    let (name, value?) := splitLong cs
    match flags.find? (·.name = name) with
    | none => .error (.unknown name)
    | some f =>
      match value? with
      | some value => (g.set f value).map fun g => (g, rest)
      | none =>
        if f.kind = .switch then (g.set f "true").map fun g => (g, rest)
        else takeNext g f (.noValue word) rest

/-- Reads one word that is a group of short flags, and the word after it if that is the value of
the last. -/
def readShort (flags : List Flag) (g : Given) (cs : List Char) (rest : List String) :
    Except FlagError (Given × List String) :=
  match readGroup flags g cs with
  | .error e => .error e
  | .ok ⟨g, none⟩ => .ok (g, rest)
  | .ok ⟨g, some (f, c, group)⟩ => takeNext g f (.noValueShort c group) rest

/-- Reads at most `fuel` words; every step takes at least one. -/
def readWords (flags : List Flag) : Nat → Given → List String → Except FlagError Given
  | 0, g, _ => .ok g
  | _, g, [] => .ok g
  | fuel + 1, g, word :: rest =>
    match word.toList with
    | ['-', '-'] => .ok { g with arguments := g.arguments ++ rest }
    | '-' :: '-' :: cs =>
      match readLong flags g word cs rest with
      | .error e => .error e
      | .ok (g, rest) => readWords flags fuel g rest
    | '-' :: c :: cs =>
      match readShort flags g (c :: cs) rest with
      | .error e => .error e
      | .ok (g, rest) => readWords flags fuel g rest
    | _ => readWords flags fuel { g with arguments := g.arguments ++ [word] } rest

/-- The flags and arguments of a command line. -/
def readFlags (flags : List Flag) (words : List String) : Except FlagError Given :=
  readWords flags words.length ⟨[], []⟩ words

end LineBasic.CommandLine
