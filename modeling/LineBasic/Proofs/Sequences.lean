/-
# One operation after the other

Texts are entered, lines taken in and stored lines executed one after the other, in one of two ways:
all of them, whatever they answer (`each`), or up to the first that fails (`untilFailure`).  Loading
a source is the first way and a run is the second (`quiet_loadLines`, `quiet_runLines`).

**The two ways differ only in where they end**: going on until a failure is going through all, if
none of them fails (`untilFailure_of_pass`), and else through those up to the first that does
(`untilFailure_of_failure`).  So whatever is known of `each` is known of both.

A turn is compared without its notices (`Turn.quiet`), since those also tell how a text was read.
-/
import LineBasic.Proofs.Execution

namespace LineBasic

open Source (Line)

variable {α β γ : Type}

/-! ## 1. Turns without their notices -/

namespace Turn

/-- The same turn, with nothing reported. -/
def quiet (t : Turn α) : Turn α := { t with notices := [] }

theorem quiet_eq_iff {t u : Turn α} :
    t.quiet = u.quiet ↔
      t.interpreter = u.interpreter ∧ t.writes = u.writes ∧ t.answer = u.answer := by
  simp [quiet]

@[simp] theorem quiet_after (t : Turn α) (notices : List Notice) :
    (t.after notices).quiet = t.quiet := rfl

theorem quiet_andThen (t : Turn α) (later : Turn β) (f : β → γ) :
    (t.andThen later f).quiet = t.quiet.andThen later.quiet f := rfl

end Turn

namespace Interpreter

variable (op : Interpreter → α → Turn β) (i : Interpreter)

/-! ## 2. All of them -/

/-- One operation after the other, whatever they answer. -/
def each (i : Interpreter) : List α → Turn (List β)
  | [] => i.idle [] []
  | a :: as =>
    let t := op i a
    t.andThen (t.interpreter.each as) (t.answer :: ·)

theorem each_append (as bs : List α) :
    (i.each op (as ++ bs)).quiet
      = ((i.each op as).andThen ((i.each op as).interpreter.each op bs)
          ((i.each op as).answer ++ ·)).quiet := by
  induction as generalizing i with
  | nil => rfl
  | cons a as ih =>
    have later := Turn.quiet_eq_iff.mp (ih (op i a).interpreter)
    obtain ⟨interpreter, writes, answer⟩ := later
    rw [Turn.quiet_eq_iff]
    refine ⟨interpreter, ?_, ?_⟩
    · show (op i a).writes ++ (each op (op i a).interpreter (as ++ bs)).writes = _
      rw [writes]
      exact (List.append_assoc _ _ _).symm
    · exact congrArg ((op i a).answer :: ·) answer

/-- The interpreters after some operations and one more. -/
theorem interpreter_each_append (as bs : List α) :
    (i.each op (as ++ bs)).interpreter = ((i.each op as).interpreter.each op bs).interpreter :=
  (Turn.quiet_eq_iff.mp (each_append op i as bs)).1

/-- What every operation keeps is kept by all of them together. -/
theorem each_induction {P : Interpreter → Prop} {as : List α}
    (step : ∀ j, ∀ a ∈ as, P j → P (op j a).interpreter) (h : P i) :
    P (i.each op as).interpreter := by
  induction as generalizing i with
  | nil => exact h
  | cons a as ih =>
    exact ih _ (fun j b hb => step j b (by simp [hb])) (step i a (by simp) h)

/-- Every operation answers as it does after those before it. -/
theorem answer_mem_each (as : List α) (a : α) (bs : List α) :
    (op (i.each op as).interpreter a).answer ∈ (i.each op (as ++ a :: bs)).answer := by
  rw [(Turn.quiet_eq_iff.mp (each_append op i as (a :: bs))).2.2]
  exact List.mem_append_right _ List.mem_cons_self

/-- What every answer has, all of them have. -/
theorem answer_each {P : β → Prop} {as : List α} (h : ∀ j, ∀ a ∈ as, P (op j a).answer) :
    ∀ answer ∈ (i.each op as).answer, P answer := by
  induction as generalizing i with
  | nil => exact fun _ mem => nomatch mem
  | cons a as ih =>
    intro answer mem
    rcases List.mem_cons.mp mem with rfl | mem
    · exact h i a (by simp)
    · exact ih _ (fun j b hb => h j b (by simp [hb])) answer mem

/-- Operations that do the same to what corresponds do the same one after the other. -/
theorem quiet_each_map {op' : Interpreter → γ → Turn β} {f : α → γ} {as : List α}
    (same : ∀ j, ∀ a ∈ as, (op j a).quiet = (op' j (f a)).quiet) :
    (i.each op as).quiet = (i.each op' (as.map f)).quiet := by
  induction as generalizing i with
  | nil => rfl
  | cons a as ih =>
    obtain ⟨interpreter, writes, answer⟩ := Turn.quiet_eq_iff.mp (same i a (by simp))
    have later := ih (op i a).interpreter fun j b hb => same j b (by simp [hb])
    rw [List.map_cons, each, each, Turn.quiet_andThen, Turn.quiet_andThen, later, interpreter,
      same i a (by simp), answer]

/-! ## 3. Up to the first that fails -/

/-- One operation after the other up to the first that fails, whose error is reported in a wording
of its own. -/
def untilFailure (op : Interpreter → α → Turn (Option Error)) (wording : α → Error → Error)
    (i : Interpreter) : List α → Turn (Option Error)
  | [] => i.idle [] none
  | a :: as =>
    let t := op i a
    match t.answer with
    | none => t.andThen (t.interpreter.untilFailure op wording as) id
    | some e => { t with answer := some (wording a e) }

/-- Those that are attempted: all up to the first that fails. -/
def attempted (op : Interpreter → α → Turn (Option Error)) (i : Interpreter) : List α → List α
  | [] => []
  | a :: as =>
    match (op i a).answer with
    | none => a :: (op i a).interpreter.attempted op as
    | some _ => [a]

section

variable {op : Interpreter → α → Turn (Option Error)} {wording : α → Error → Error}
  {i : Interpreter} {as : List α}

/-- If none of them can fail, all are attempted. -/
theorem attempted_of_forall (h : ∀ j, ∀ a ∈ as, (op j a).answer = none) :
    i.attempted op as = as := by
  induction as generalizing i with
  | nil => rfl
  | cons a as ih =>
    simp [attempted, h i a (by simp), ih fun j b hb => h j b (by simp [hb])]

/-- **Where a failure is the end, all that was attempted was done.** -/
theorem interpreter_untilFailure :
    (i.untilFailure op wording as).interpreter = (i.each op (i.attempted op as)).interpreter := by
  induction as generalizing i with
  | nil => rfl
  | cons a as ih =>
    rw [untilFailure, attempted]
    cases (op i a).answer with
    | none => exact ih
    | some e => rfl

/-- What every reported error has, the one that ends it all has. -/
theorem answer_untilFailure {P : Error → Prop}
    (h : ∀ j, ∀ a ∈ as, ∀ e ∈ (op j a).answer, P (wording a e)) :
    ∀ e ∈ (i.untilFailure op wording as).answer, P e := by
  induction as generalizing i with
  | nil => exact fun _ mem => nomatch mem
  | cons a as ih =>
    rw [untilFailure]
    cases answered : (op i a).answer with
    | none => exact ih fun j b hb => h j b (by simp [hb])
    | some cause =>
      rintro e mem
      cases mem
      exact h i a (by simp) cause answered

/-- A failure ends it all, whatever would follow. -/
theorem untilFailure_append_of_some {e : Error}
    (failed : (i.untilFailure op wording as).answer = some e) (bs : List α) :
    i.untilFailure op wording (as ++ bs) = i.untilFailure op wording as := by
  induction as generalizing i with
  | nil => cases failed
  | cons a as ih =>
    rw [untilFailure] at failed
    rw [List.cons_append, untilFailure, untilFailure]
    cases answered : (op i a).answer with
    | some cause => rfl
    | none =>
      simp only [answered] at failed
      simp only [ih failed]

/-- Without a failure, what follows goes on from there. -/
theorem untilFailure_append_of_none (passed : (i.untilFailure op wording as).answer = none)
    (bs : List α) :
    i.untilFailure op wording (as ++ bs)
      = (i.untilFailure op wording as).andThen
          ((i.untilFailure op wording as).interpreter.untilFailure op wording bs) id := by
  induction as generalizing i with
  | nil => rfl
  | cons a as ih =>
    rw [untilFailure] at passed
    rw [List.cons_append, untilFailure, untilFailure]
    cases answered : (op i a).answer with
    | some cause => simp [answered] at passed
    | none =>
      simp only [answered] at passed
      simp only [ih passed, Turn.andThen, List.append_assoc, id_eq]

/-- If none of them fails, going on until a failure is going through all. -/
theorem untilFailure_of_pass (pass : ∀ answer ∈ (i.each op as).answer, answer = none) :
    i.untilFailure op wording as = { i.each op as with answer := none } := by
  induction as generalizing i with
  | nil => rfl
  | cons a as ih =>
    have first : (op i a).answer = none := pass _ List.mem_cons_self
    have later := ih (i := (op i a).interpreter) fun answer mem =>
      pass answer (List.mem_cons_of_mem _ mem)
    simp only [untilFailure, first, later]
    rfl

/-- The first that fails is the last that is done, whatever stands behind it. -/
theorem untilFailure_of_failure {a : α} {e : Error}
    (pass : ∀ answer ∈ (i.each op as).answer, answer = none)
    (fails : (op (i.each op as).interpreter a).answer = some e) (bs : List α) :
    i.untilFailure op wording (as ++ a :: bs)
      = (i.each op as).andThen (op (i.each op as).interpreter a)
          fun _ => some (wording a e) := by
  have passed : i.untilFailure op wording as = { i.each op as with answer := none } :=
    untilFailure_of_pass pass
  have ended : (i.each op as).interpreter.untilFailure op wording (a :: bs)
      = { op (i.each op as).interpreter a with answer := some (wording a e) } := by
    simp only [untilFailure, fails]
  rw [untilFailure_append_of_none (congrArg Turn.answer passed), passed, ended]
  rfl

/-- **All of them pass, or there is a first that fails.** -/
theorem pass_or_first_failure (op : Interpreter → α → Turn (Option Error)) (i : Interpreter)
    (as : List α) :
    (∀ answer ∈ (i.each op as).answer, answer = none)
      ∨ ∃ before a after e, as = before ++ a :: after
        ∧ (∀ answer ∈ (i.each op before).answer, answer = none)
        ∧ (op (i.each op before).interpreter a).answer = some e := by
  induction as generalizing i with
  | nil => exact .inl fun _ mem => nomatch mem
  | cons a as ih =>
    cases answered : (op i a).answer with
    | some e => exact .inr ⟨[], a, as, e, rfl, (fun _ mem => nomatch mem), answered⟩
    | none =>
      have also : ∀ bs : List α,
          (∀ answer ∈ ((op i a).interpreter.each op bs).answer, answer = none) →
          ∀ answer ∈ (i.each op (a :: bs)).answer, answer = none := by
        intro bs pass answer mem
        rcases List.mem_cons.mp mem with rfl | mem
        · exact answered
        · exact pass answer mem
      rcases ih (op i a).interpreter with pass | ⟨before, b, after, e, rfl, pass, fails⟩
      · exact .inl (also as pass)
      · exact .inr ⟨a :: before, b, after, e, rfl, also before pass, fails⟩

end

/-- Operations that do the same to what corresponds end at the same failure. -/
theorem quiet_untilFailure_map {op : Interpreter → α → Turn (Option Error)}
    {op' : Interpreter → γ → Turn (Option Error)} {f : α → γ} {as : List α} (i : Interpreter)
    (same : ∀ j, ∀ a ∈ as, (op j a).quiet = (op' j (f a)).quiet) :
    (i.untilFailure op (fun _ => id) as).quiet
      = (i.untilFailure op' (fun _ => id) (as.map f)).quiet := by
  induction as generalizing i with
  | nil => rfl
  | cons a as ih =>
    obtain ⟨interpreter, writes, answer⟩ := Turn.quiet_eq_iff.mp (same i a (by simp))
    have later := ih (op i a).interpreter fun j b hb => same j b (by simp [hb])
    rw [interpreter] at later
    cases answered : (op i a).answer with
    | none =>
      simp only [List.map_cons, untilFailure, answered, ← answer, Turn.quiet_andThen, interpreter,
        later, same i a (by simp)]
    | some e =>
      simp only [List.map_cons, untilFailure, answered, ← answer]
      exact Turn.quiet_eq_iff.mpr ⟨interpreter, writes, rfl⟩

/-! ## 4. Lines, sources and runs -/

variable (out : Stream)

theorem enterLines_eq_untilFailure (ls : List Line) :
    i.enterLines out ls = i.untilFailure (enterLine out) (fun _ => id) ls := by
  induction ls generalizing i with
  | nil => rfl
  | cons l ls ih =>
    rw [enterLines, untilFailure]
    split
    · rename_i e h
      simp only [h, id_eq]
      rw [← h]
    · rename_i h
      simp [h, ih]

/-- The warnings that answers give, the first of them being that to the line with the given
number. -/
def warnings (first : Nat) (answers : List (Option Error)) : List Error :=
  (answers.zipIdx first).filterMap fun a => a.1.map (Error.inSource a.2)

/-- **A source is loaded by taking in all its lines.** -/
theorem quiet_loadLines (first : Nat) (ls : List Line) :
    (i.loadLines out first ls).quiet
      = ({ i.each (enterLine out) ls with
          answer := warnings first (i.each (enterLine out) ls).answer }
        : Turn (List Error)).quiet := by
  induction ls generalizing i first with
  | nil => rfl
  | cons l ls ih =>
    obtain ⟨interpreter, writes, answer⟩ :=
      Turn.quiet_eq_iff.mp (ih (i.enterLine out l).interpreter (first + 1))
    rw [loadLines, each]
    split
    · rename_i h
      refine Turn.quiet_eq_iff.mpr ⟨interpreter, congrArg (_ ++ ·) writes, ?_⟩
      simpa [Turn.andThen, warnings, h] using answer
    · rename_i e h
      refine Turn.quiet_eq_iff.mpr ⟨interpreter, congrArg (_ ++ ·) writes, ?_⟩
      simpa [Turn.andThen, warnings, h] using answer

/-- Executes a stored line, whatever its number. -/
def executeStored (i : Interpreter) (e : UInt16 × Line) : Turn (Option Error) :=
  i.executeStatement out false (e.2.nodes.drop 1)

/-- **A run executes the stored lines up to the first that fails**, and puts the number of that line
on the error. -/
theorem quiet_runLines (entries : List (UInt16 × Line)) :
    (i.runLines out entries).quiet
      = (i.untilFailure (executeStored out) (fun e => .atLine e.1) entries).quiet := by
  induction entries generalizing i with
  | nil => rfl
  | cons e entries ih =>
    rw [runLines, untilFailure]
    show Turn.quiet (match (i.executeStored out e).answer with | none => _ | some _ => _) = _
    cases h : (i.executeStored out e).answer with
    | none =>
      simp only [Turn.quiet_andThen, ← ih]
      rfl
    | some cause => rfl

end Interpreter

end LineBasic
