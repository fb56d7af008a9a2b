/-
# Items on the terminal

What the console shows besides the output of programs: texts, errors, tables and nested values.
Every item is shown in one write and ends with a newline.  The plain formatter knows all of
them; the console's formatter has its own way with an error in a program line and with the
variables.
-/
import LineBasic.Display.Table
import LineBasic.Display.Yaml
import LineBasic.Store

namespace LineBasic.Display

/-- Something to show. -/
inductive Item where
  | text (s : String)
  | error (e : Error)
  | map (entries : List (String × Yaml.Value))
  | table (t : Table)
  | variables (s : Store)
  | nothing
  /-- Anything else is shown by the name of its type. -/
  | object (typeName : String)

/-! ## 1. Variables -/

/-- The rows of an array: one for each element. -/
def elementRows (name : String) (a : Array Float) : List (List String) :=
  a.toList.mapIdx fun i x => [s!"{name}({i})", Number.text x]

/-- The variables as a table: the scalars by name, then the elements of the arrays. -/
def variablesTable (s : Store) : Table :=
  { title := some "Variables"
    header := ["NAME", "VALUE"]
    rows := (s.scalars.entries.map fun (name, x) => [name, Number.text x])
      ++ s.arrays.entries.flatMap fun (name, a) => elementRows name a }

/-- The variables as a nested value: the scalars and the arrays, where there are any. -/
def variablesValue (s : Store) : Yaml.Value :=
  let scalars := s.snapshot.scalars.map fun (name, x) => (name, Yaml.Value.number x)
  let arrays := s.snapshot.arrays.map fun (name, a) =>
    (name, Yaml.Value.list (a.toList.map Yaml.Value.number))
  let part := fun (key : String) (entries : List (String × Yaml.Value)) =>
    if entries.isEmpty then [] else [(key, Yaml.Value.ofEntries entries)]
  .map (part "scalars" scalars ++ part "arrays" arrays)

/-! ## 2. Formatters -/

/-- The names of types in notices and in `object of type` lines. -/
def errorType : Error → String
  | .atLine _ _ => "*evaluator.RuntimeError"
  | .lineNumber _ _ => "*evaluator.LineNumberError"
  | .access (.outOfBounds _ _ _) => "*variables.IndexOutOfBoundsError"
  | .file _ _ => "*fs.PathError"
  | .missingLet | .missingVariable | .noProgram | .stream _ | .unknownFormat _ =>
    "*errors.errorString"
  | _ => "*fmt.wrapError"

/-- The name of the type of an item. -/
def Item.type : Item → String
  | .text _ => "string"
  | .error e => errorType e
  | .map _ => "map[string]interface \x7b\x7d"
  | .table _ => "*table.Table"
  | .variables _ => "*variables.Store"
  | .nothing => "<nil>"
  | .object typeName => typeName

/-- How the plain formatter shows an item. -/
def Item.plainText : Item → String
  | .text s => "▶ " ++ s ++ "\n"
  | .error e => "✗ " ++ e.message ++ "\n"
  | .map entries => "▶ Hierarchical object:\n" ++ Yaml.document 4 (Yaml.Value.ofEntries entries)
  | .table t => t.text ++ "\n"
  | .nothing => "▶ (nothing)\n"
  | item => "▶ object of type " ++ item.type ++ "\n"

/-- How the console's formatter shows an item. -/
def Item.consoleText : Item → String
  | .error (.atLine number cause) => s!"✗ error in line {number}: " ++ cause.message ++ "\n"
  | .variables s => (variablesTable s).text ++ "\n"
  | item => item.plainText

/-- What is reported when the console's formatter is asked for an item. -/
def Item.notice (item : Item) : Notice :=
  ⟨.console, .debug, "cli.Format called for item " ++ item.type⟩

/-! ## 3. Showing variables -/

/-- The variables in a format, and what is reported of showing them. -/
structure Shown where
  text : Except Error String
  notices : List Notice

/-- A text written to a stream, which may refuse it. -/
def written (failure : Option String) (refused : String → Error) (text : String) :
    Except Error String :=
  match failure with
  | some reason => .error (refused reason)
  | none => .ok text

/-- Shows the variables in a format, on a stream that may refuse all writing.  No format is the
table. -/
def showVariables (failure : Option String) (s : Store) (format : String) : Shown :=
  if format = "yaml" then
    ⟨written failure .encoder (Yaml.document 2 (variablesValue s)), []⟩
  else if format = "table" || format = "" then
    let item := Item.variables s
    ⟨written failure .stream item.consoleText, [item.notice]⟩
  else ⟨.error (.unknownFormat format), []⟩

end LineBasic.Display
