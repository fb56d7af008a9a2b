/-
# The interpreter

An interpreter holds a program, its lines by number, and the variables.  A numbered line is
stored, replacing the one that had its number, or removes that one if it is bare.  Any other
line is executed at once.  A run executes the stored lines in ascending order and halts at the
first that fails.

Every operation returns a `Turn`: the interpreter after it, what it wrote, what it reports and
what it answers.  Output goes to a stream, which may refuse all writing.
-/
import LineBasic.LineNumber
import LineBasic.Statement

namespace LineBasic

open Source (Line)

/-! ## 1. Turns -/

/-- Where output goes: every write succeeds, or every write fails with a reason. -/
structure Stream where
  failure : Option String := none

/-- A program by line number, and the variables. -/
structure Interpreter where
  program : SortedMap UInt16 Line
  store : Store

/-- What an operation on an interpreter came to. -/
structure Turn (α : Type) where
  interpreter : Interpreter
  /-- The texts written, in order. -/
  writes : List String
  notices : List Notice
  answer : α

/-- The same turn, with notices given before it. -/
def Turn.after {α : Type} (t : Turn α) (notices : List Notice) : Turn α :=
  { t with notices := notices ++ t.notices }

/-- A turn that follows another, with an answer made from the later one's. -/
def Turn.andThen {α β γ : Type} (t : Turn α) (later : Turn β) (f : β → γ) : Turn γ :=
  ⟨later.interpreter, t.writes ++ later.writes, t.notices ++ later.notices, f later.answer⟩

namespace Interpreter

/-- An interpreter without program and variables. -/
def new (arraySize : Int) : Interpreter := ⟨.empty, .empty arraySize⟩

/-- The number of program lines. -/
def size (i : Interpreter) : Nat := i.program.size

/-- A turn that changes nothing and writes nothing. -/
def idle {α : Type} (i : Interpreter) (notices : List Notice) (answer : α) : Turn α :=
  ⟨i, [], notices, answer⟩

/-! ## 2. Statements -/

/-- Carries out an effect. -/
def perform (out : Stream) (i : Interpreter) : Effect → Turn (Option Error)
  | .setScalar name value =>
    ⟨{ i with store := i.store.setScalar name value }, [], Store.scalarNotices name value, none⟩
  | .setElement name index value =>
    let notices := i.store.elementNotices name index value
    match i.store.setElement name index value with
    | (store, .ok ()) => ⟨{ i with store := store }, [], notices, none⟩
    | (store, .error e) => ⟨{ i with store := store }, [], notices, some (.access e)⟩
  | .write text =>
    match out.failure with
    | some reason => i.idle [] (some (.stream reason))
    | none => ⟨i, [text], [], none⟩

/-- Carries out what a statement asks for, or fails as it does. -/
def carryOut (out : Stream) (i : Interpreter) (effect : Traced Error Effect) :
    Turn (Option Error) :=
  match effect.result with
  | .error e => i.idle effect.notices (some e)
  | .ok e => (i.perform out e).after effect.notices

/-- Executes a statement. -/
def executeStatement (out : Stream) (i : Interpreter) (immediate : Bool)
    (statement : List Node) : Turn (Option Error) :=
  i.carryOut out (Statement.effect i.store immediate statement)

/-- Executes an assignment. -/
def assign (out : Stream) (i : Interpreter) (statement : List Node) : Turn (Option Error) :=
  i.carryOut out (Statement.assignment i.store statement)

/-- Executes a PRINT statement. -/
def print (out : Stream) (i : Interpreter) (statement : List Node) : Turn (Option Error) :=
  i.carryOut out (Statement.printing i.store statement)

/-! ## 3. Lines -/

/-- The parts of a line: its number, if it has one, and its statement. -/
structure Parts where
  number : Option UInt16
  statement : List Node

/-- The parts of a line. -/
def parts (l : Line) : Except Error Parts :=
  match l.nodes with
  | [] => .ok ⟨none, []⟩
  | .hole :: _ => .error (.fault .emptyPlace)
  | .mk kind value children :: rest =>
    if kind = .lineNumber then
      match LineNumber.parse value with
      | .ok n => .ok ⟨some n, rest⟩
      | .error problem => .error (.lineNumber value problem)
    else .ok ⟨none, .mk kind value children :: rest⟩

/-- A notice of the interpreter. -/
def noticeOf (severity : Severity) (text : String) : Notice := ⟨.evaluator, severity, text⟩

/-- Takes in a line: stores it, removes the line with its number, or executes it at once.  An
empty line does nothing. -/
def enterLine (out : Stream) (i : Interpreter) (l : Line) : Turn (Option Error) :=
  match parts l with
  | .error e => i.idle [] (some e)
  | .ok ⟨none, []⟩ => i.idle [] none
  | .ok ⟨none, statement⟩ => i.executeStatement out true statement
  | .ok ⟨some n, []⟩ =>
    ⟨{ i with program := i.program.erase n }, [],
      [noticeOf .debug s!"removing line {n}"], none⟩
  | .ok ⟨some n, _⟩ =>
    ⟨{ i with program := i.program.insert n l }, [],
      [noticeOf .debug s!"storing line {n}"], none⟩

/-- Executes a line without storing it; its number does not matter. -/
def execute (out : Stream) (i : Interpreter) (l : Line) : Turn (Option Error) :=
  match parts l with
  | .error e => i.idle [] (some e)
  | .ok p => i.executeStatement out p.number.isNone p.statement

/-- Takes in lines up to the first that fails. -/
def enterLines (out : Stream) (i : Interpreter) : List Line → Turn (Option Error)
  | [] => i.idle [] none
  | l :: ls =>
    let t := i.enterLine out l
    match t.answer with
    | some _ => t
    | none => t.andThen (t.interpreter.enterLines out ls) id

/-- Takes in a text, up to the first line that fails. -/
def enter (out : Stream) (i : Interpreter) (text : String) : Turn (Option Error) :=
  let read := Source.read text
  (i.enterLines out read.value).after read.notices

/-- Takes in all lines, the first of them having the given number; the answer holds a warning for
each line that failed. -/
def loadLines (out : Stream) (i : Interpreter) : Nat → List Line → Turn (List Error)
  | _, [] => i.idle [] []
  | first, l :: ls =>
    let t := i.enterLine out l
    match t.answer with
    | none => t.andThen (t.interpreter.loadLines out (first + 1) ls) id
    | some e =>
      let skipped := noticeOf .info (s!"line #{first} skipped: " ++ e.message)
      ({ t with notices := t.notices ++ [skipped] }).andThen
        (t.interpreter.loadLines out (first + 1) ls) (Error.inSource first e :: ·)

/-- Takes in a source text; lines that fail are passed over with a warning. -/
def load (out : Stream) (i : Interpreter) (source : String) : Turn (List Error) :=
  let read := Source.read source
  (i.loadLines out 1 read.value).after read.notices

/-! ## 4. Programs -/

/-- Executes stored lines up to the first that fails. -/
def runLines (out : Stream) (i : Interpreter) : List (UInt16 × Line) → Turn (Option Error)
  | [] => i.idle [] none
  | (n, l) :: rest =>
    let t := i.executeStatement out false (l.nodes.drop 1)
    match t.answer with
    | none => t.andThen (t.interpreter.runLines out rest) id
    | some e =>
      { t with
        notices := t.notices ++ [noticeOf .error (s!"line {n}: " ++ e.message)]
        answer := some (.atLine n e) }

/-- Runs the program: its lines in ascending order, up to the first that fails. -/
def run (out : Stream) (i : Interpreter) : Turn (Option Error) :=
  match i.program.entries with
  | [] => i.idle [] (some .noProgram)
  | entries => i.runLines out entries

/-- The texts of stored lines. -/
def lineTexts : List (UInt16 × Line) → Except Fault (List String)
  | [] => .ok []
  | (_, l) :: rest => do
    let text ← l.text
    let texts ← lineTexts rest
    return (text ++ "\n") :: texts

/-- Writes the program, each line in one write, in ascending order. -/
def list (out : Stream) (i : Interpreter) : Turn (Option Error) :=
  match lineTexts i.program.entries with
  | .error fault => i.idle [] (some (.fault fault))
  | .ok [] => i.idle [] none
  | .ok texts =>
    match out.failure with
    | some reason => i.idle [] (some (.stream reason))
    | none => ⟨i, texts, [], none⟩

/-- The program as a source text. -/
def source (i : Interpreter) : String := String.join (i.list {}).writes

/-- Removes the program and all variables; the array size stays. -/
def clear (i : Interpreter) : Interpreter := new i.store.arraySize

end Interpreter

end LineBasic
