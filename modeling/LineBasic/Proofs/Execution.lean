/-
# Statements and the program

A statement sees and changes the variables only.  Whatever program is held, it does the same and
leaves that program alone (`executeStatement_withProgram`), so a run and the execution of a line
keep the program as well.  Lines are the only thing that changes it, and `enterLine` is the only
way in: a line goes there by its parts (`enterLine_stored`, `enterLine_removed`,
`enterLine_immediate`).

An assignment without its `LET` asks for the same when it is immediate as the completed one does
in a program line (`effect_completed`).
-/
import LineBasic.Interpreter
import LineBasic.Proofs.SourceLines

namespace LineBasic

open Source (Line completed letWord)

namespace Turn

variable {α : Type}

@[simp] theorem interpreter_after (t : Turn α) (notices : List Notice) :
    (t.after notices).interpreter = t.interpreter := rfl

@[simp] theorem writes_after (t : Turn α) (notices : List Notice) :
    (t.after notices).writes = t.writes := rfl

@[simp] theorem answer_after (t : Turn α) (notices : List Notice) :
    (t.after notices).answer = t.answer := rfl

end Turn

/-- The same turn with another program held. -/
def Turn.withProgram {α : Type} (t : Turn α) (program : SortedMap UInt16 Line) : Turn α :=
  { t with interpreter := { t.interpreter with program := program } }

/-! ## 1. What a statement asks for -/

/-- **The two ways to supply a `LET` agree.** -/
theorem Statement.effect_completed (s : Store) (statement : List Node) :
    effect s false (completed statement) = effect s true statement := by
  match statement with
  | [] => rfl
  | .hole :: rest => rfl
  | .mk kind value children :: rest =>
    by_cases h : kind = .identifier
    · subst h
      rfl
    · have same : completed (.mk kind value children :: rest)
          = .mk kind value children :: rest := by
        simp [completed, Node.kind?, h]
      rw [same]
      simp [effect, h]

namespace Interpreter

variable (out : Stream)

/-! ## 2. The program stays out of it -/

theorem perform_withProgram (i : Interpreter) (program : SortedMap UInt16 Line) (e : Effect) :
    perform out { i with program := program } e = (i.perform out e).withProgram program := by
  cases e with
  | setScalar name value => rfl
  | setElement name index value =>
    simp only [perform, Turn.withProgram]
    split <;> simp_all
  | write text =>
    simp only [perform, Turn.withProgram]
    split <;> rfl

/-- **A statement neither sees nor changes the program.** -/
theorem executeStatement_withProgram (i : Interpreter) (program : SortedMap UInt16 Line)
    (immediate : Bool) (statement : List Node) :
    executeStatement out { i with program := program } immediate statement
      = (i.executeStatement out immediate statement).withProgram program := by
  unfold executeStatement carryOut
  simp only
  split
  · rfl
  · rw [perform_withProgram]
    rfl

theorem program_executeStatement (i : Interpreter) (immediate : Bool) (statement : List Node) :
    (i.executeStatement out immediate statement).interpreter.program = i.program := by
  have h := executeStatement_withProgram out i i.program immediate statement
  exact congrArg (fun t => t.interpreter.program) h

theorem program_execute (i : Interpreter) (l : Line) :
    (i.execute out l).interpreter.program = i.program := by
  unfold execute
  split
  · rfl
  · exact program_executeStatement out i _ _

theorem program_runLines (i : Interpreter) (entries : List (UInt16 × Line)) :
    (i.runLines out entries).interpreter.program = i.program := by
  induction entries generalizing i with
  | nil => rfl
  | cons e rest ih =>
    have now := program_executeStatement out i false (e.2.nodes.drop 1)
    unfold runLines
    simp only
    split
    · simp only [Turn.andThen]
      rw [ih, now]
    · exact now

theorem program_run (i : Interpreter) : (i.run out).interpreter.program = i.program := by
  unfold run
  split
  · rfl
  · exact program_runLines out i _

/-! ## 3. Texts by their lines -/

theorem enter_eq (i : Interpreter) (text : String) :
    i.enter out text
      = (i.enterLines out (Source.lines text)).after (Source.read text).notices := rfl

theorem load_eq (i : Interpreter) (source : String) :
    i.load out source
      = (i.loadLines out 1 (Source.lines source)).after (Source.read source).notices := rfl

/-! ## 4. Lines by their parts -/

theorem parts_numbered {t : String} {n : UInt16} (h : LineNumber.parse t = .ok n)
    (statement : List Node) :
    parts ⟨.leaf .lineNumber t :: statement⟩ = .ok ⟨some n, statement⟩ := by
  simp [parts, Node.leaf, h]

theorem parts_unnumbered {n : Node} (known : n.Known) (h : n.kind? ≠ some .lineNumber)
    (rest : List Node) : parts ⟨n :: rest⟩ = .ok ⟨none, n :: rest⟩ := by
  match n with
  | .hole => exact known.elim
  | .mk kind value children =>
    have h : kind ≠ .lineNumber := by simpa [Node.kind?] using h
    simp [parts, h]

variable {l : Line} {n : UInt16} {statement : List Node}

theorem enterLine_stored (i : Interpreter) (h : parts l = .ok ⟨some n, statement⟩)
    (hne : statement ≠ []) :
    i.enterLine out l = ⟨{ i with program := i.program.insert n l }, [],
      [noticeOf .debug s!"storing line {n}"], none⟩ := by
  cases statement with
  | nil => exact absurd rfl hne
  | cons m rest => simp [enterLine, h]

theorem enterLine_removed (i : Interpreter) (h : parts l = .ok ⟨some n, []⟩) :
    i.enterLine out l = ⟨{ i with program := i.program.erase n }, [],
      [noticeOf .debug s!"removing line {n}"], none⟩ := by
  simp [enterLine, h]

theorem enterLine_immediate (i : Interpreter) (h : parts l = .ok ⟨none, statement⟩)
    (hne : statement ≠ []) : i.enterLine out l = i.executeStatement out true statement := by
  cases statement with
  | nil => exact absurd rfl hne
  | cons m rest => simp [enterLine, h]

end Interpreter

end LineBasic
