/-
# The console

A session takes one line at a time.  The first word of a line may be an administrative command:
help, leaving, the editing mode, the prompt.  Five words belong to the interpreter (`run`,
`list`, `vars`, `new`, `load FILE`), and every other line is taken in as BASIC.  A line answers
with what goes to the output and what goes to the error output; errors never end a session.

Reading a file is left to the caller, who passes the function that reads it; `fileToLoad?` says
which file a line asks for.
-/
import LineBasic.Display.Item
import LineBasic.Interpreter
import LineBasic.Text.LineEnd
import LineBasic.Text.Template

namespace LineBasic

/-! ## 1. Sessions -/

/-- The editing mode of the command line. -/
inductive EditMode where
  | emacs
  | vi
  deriving DecidableEq, Repr

/-- The name of an editing mode. -/
def EditMode.name : EditMode → String
  | .emacs => "emacs"
  | .vi => "vi"

/-- The state of a session. -/
structure Console where
  interpreter : Interpreter
  /-- The format in which variables are shown. -/
  format : String
  tool : String
  version : String
  /-- What the tool adds to the help text. -/
  helpText : String
  prompt : String
  mode : EditMode

/-- What a line was answered with. -/
structure Reply where
  console : Console
  /-- The texts for the output, in order. -/
  output : List String
  /-- The texts for the error output, in order. -/
  errors : List String
  notices : List Notice
  /-- The session is over. -/
  done : Bool

/-- How a file is read. -/
abbrev FileReader := String → Except FileProblem String

namespace Console

/-- The prompt of a tool, in green. -/
def standardPrompt (tool : String) : String :=
  let escape := String.ofList [Char.ofNat 0x1B]
  escape ++ "[32m" ++ tool ++ "> " ++ escape ++ "[0m"

/-- A session with nothing done yet. -/
def new (tool version helpText format : String) (arraySize : Int) : Console :=
  { interpreter := .new arraySize
    format := format
    tool := tool
    version := version
    helpText := helpText
    prompt := standardPrompt tool
    mode := .emacs }

/-- An answer without effect. -/
def silent (c : Console) : Reply := ⟨c, [], [], [], false⟩

/-- An answer on the error output only. -/
def say (c : Console) (text : String) : Reply := { c.silent with errors := [text] }

/-! ## 2. Administrative commands -/

/-- An administrative command. -/
inductive AdminCommand where
  | help
  | bye
  | mode
  | setPrompt
  deriving DecidableEq, Repr

/-- The administrative commands, in the order of the help text. -/
def AdminCommand.all : List AdminCommand := [.help, .bye, .mode, .setPrompt]

/-- The word that calls an administrative command. -/
def AdminCommand.name : AdminCommand → String
  | .help => "help"
  | .bye => "bye"
  | .mode => "mode"
  | .setPrompt => "setprompt"

/-- The line of an administrative command in the help text. -/
def AdminCommand.usage : AdminCommand → String
  | .help => "help               : print this message"
  | .bye => "bye                : quit application"
  | .mode => "mode [mode]        : display or set current editing mode"
  | .setPrompt => "setprompt [prompt] : set current prompt [to default]"

/-- The names that complete an administrative command: its own, and the modes for `mode`. -/
def AdminCommand.completions (c : AdminCommand) : List String :=
  match c with
  | .mode => [c.name, c.name ++ " " ++ EditMode.vi.name, c.name ++ " " ++ EditMode.emacs.name]
  | _ => [c.name]

/-- The words of the interpreter's own commands. -/
def commandWords : List String := ["run", "list", "vars", "new", "load"]

/-- All names offered for completion, for a tool with the given commands. -/
def completions (commands : List String) : List String :=
  AdminCommand.all.flatMap AdminCommand.completions ++ commands

/-- The greeting of a session. -/
def welcome (c : Console) : String := "Welcome to " ++ c.tool ++ " [V" ++ c.version ++ "]\n"

/-- The help text. -/
def help (c : Console) : String :=
  c.welcome ++ "\nThe following commands are available:\n\n"
    ++ String.join (AdminCommand.all.map fun a => "  " ++ a.usage ++ "\n") ++ c.helpText

/-- The mode that a word names. -/
def modeNamed? (word : Option String) : Option EditMode :=
  if word = some "vi" then some .vi else if word = some "emacs" then some .emacs else none

/-- The prompt that a line with the command `setprompt` asks for. -/
def promptFrom (tool line : String) : String :=
  let word := "setprompt".toList
  let cs := line.toList
  let rest := Text.trim (String.ofList (if word.isPrefixOf cs then cs.drop word.length else cs))
  if rest = "" then standardPrompt tool else rest ++ " "

/-- Answers an administrative command. -/
def administer (c : Console) (words : List String) (line : String) : AdminCommand → Reply
  | .help => c.say c.help
  | .bye => { c.say "> goodbye!\n" with done := true }
  | .mode =>
    match modeNamed? words[1]? with
    | some mode => silent { c with mode := mode }
    | none => c.say ("> current input mode: " ++ c.mode.name ++ "\n")
  | .setPrompt => silent { c with prompt := promptFrom c.tool line }

/-! ## 3. The interpreter's commands -/

/-- The reply to a turn of the interpreter that may have failed. -/
def replyTo (c : Console) (t : Turn (Option Error)) : Reply :=
  let c := { c with interpreter := t.interpreter }
  match t.answer with
  | none => ⟨c, t.writes, [], t.notices, false⟩
  | some e =>
    let item := Display.Item.error e
    ⟨c, t.writes, [item.consoleText],
      t.notices ++ [⟨.console, .error, Text.Template.fill e.message⟩, item.notice], false⟩

/-- Takes in a program; warnings go to the error output. -/
def load (c : Console) (source : String) : Reply :=
  let t := c.interpreter.load {} (Text.normalized source)
  let items := t.answer.map Display.Item.error
  ⟨{ c with interpreter := t.interpreter }, t.writes, items.map (·.consoleText),
    t.notices ++ items.map (·.notice), false⟩

/-- The reply to a request to show the variables. -/
def showVariables (c : Console) : Reply :=
  let shown := Display.showVariables none c.interpreter.store c.format
  let (writes, answer) : List String × Option Error := match shown.text with
    | .ok text => ([text], none)
    | .error e => ([], some e)
  c.replyTo ⟨c.interpreter, writes, shown.notices, answer⟩

/-- A line without the zero characters around it. -/
def trimZeros (line : String) : String :=
  String.ofList (Text.trimBy (fun ch => ch.toNat = 0) line.toList)

/-- The file that a line asks to load. -/
def loadRequest? (line : String) : Option String :=
  match Text.words line with
  | ["load", name] => some name
  | _ => none

/-- Answers a line for the interpreter. -/
def interpret (c : Console) (read : FileReader) (line : String) : Reply :=
  let line := trimZeros line
  let i := c.interpreter
  if line = "run" then c.replyTo (i.run {})
  else if line = "list" then c.replyTo (i.list {})
  else if line = "vars" then c.showVariables
  else if line = "new" then silent { c with interpreter := i.clear }
  else
    match loadRequest? line with
    | some name =>
      match read name with
      | .ok source => load { c with interpreter := i.clear } source
      | .error problem => c.replyTo (i.idle [] (some (.file name problem)))
    | none => c.replyTo (i.enter {} line)

/-! ## 4. Lines -/

/-- The administrative command that a line calls. -/
def adminCommand? (line : String) : Option AdminCommand :=
  match Text.words line with
  | [] => none
  | word :: _ => AdminCommand.all.find? (·.name = word)

/-- Answers a line. -/
def answer (c : Console) (read : FileReader) (line : String) : Reply :=
  if (Text.words line).isEmpty then c.silent
  else
    match adminCommand? line with
    | some command => c.administer (Text.words line) line command
    | none =>
      let r := c.interpret read line
      let called : Notice := ⟨.console, .debug, "call interpreter on: '" ++ line ++ "'"⟩
      { r with notices := called :: r.notices }

/-- The file that has to be read before a line can be answered. -/
def fileToLoad? (line : String) : Option String :=
  match adminCommand? line with
  | some _ => none
  | none => loadRequest? (trimZeros line)

end Console

end LineBasic
