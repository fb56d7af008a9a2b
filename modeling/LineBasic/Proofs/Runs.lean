/-
# Runs in parts

Beside the program, which it leaves alone, a run has three things to show: what it wrote, the
variables after it and how it ended (`Turn.shown`).  They depend on the lines and on the variables
at the start, not on the program that is held meanwhile (`shown_run`).  So a program whose lines
all stand before those of another may be run first, and the other after it, if the first did not
fail (`shown_run_together`).

**Where a run halts** is said here without the run.  A line fails if it does so after all lines
before it (`FailsAt`).  The line that a run halts at is the least that fails, and the lines behind
it might as well be others, or missing (`isLeast_of_failure`, `shown_run_of_failure`).
-/
import Mathlib
import LineBasic.Proofs.MapEntries
import LineBasic.Proofs.Sequences

namespace LineBasic

open Source (Line)

/-! ## 1. Lines up to a number -/

namespace SortedMap

variable {α : Type} {m m' : SortedMap UInt16 α} {n : UInt16} {a : α}
  {before after : List (UInt16 × α)}

/-- What is listed before an entry has a smaller key, what is listed behind it a larger one. -/
theorem keys_around (cut : m.entries = before ++ (n, a) :: after) :
    (∀ e ∈ before, e.1 < n) ∧ ∀ e ∈ after, n < e.1 := by
  have ascending := m.ascending
  rw [cut, Ascending, List.pairwise_append, List.pairwise_cons] at ascending
  obtain ⟨-, ⟨behind, -⟩, ahead⟩ := ascending
  refine ⟨fun e he => ?_, fun e he => ?_⟩
  · exact Std.compare_eq_lt.mp (ahead e he (n, a) List.mem_cons_self)
  · exact Std.compare_eq_lt.mp (behind e he)

theorem find?_of_cut (cut : m.entries = before ++ (n, a) :: after) : m.find? n = some a := by
  rw [← mem_entries_iff, cut]
  simp

theorem filter_lt (cut : m.entries = before ++ (n, a) :: after) :
    m.entries.filter (·.1 < n) = before := by
  obtain ⟨smaller, larger⟩ := keys_around cut
  have kept : before.filter (·.1 < n) = before := by
    simpa [List.filter_eq_self] using fun k b h => smaller (k, b) h
  have dropped : after.filter (·.1 < n) = [] := by
    simpa [List.filter_eq_nil_iff] using fun k b h => UInt16.le_of_lt (larger (k, b) h)
  rw [cut, List.filter_append, List.filter_cons_of_neg (by simp), kept, dropped, List.append_nil]

/-- Maps that agree up to a key are listed alike up to it. -/
theorem entries_of_agree (cut : m.entries = before ++ (n, a) :: after)
    (agree : ∀ k ≤ n, m'.find? k = m.find? k) :
    ∃ rest, m'.entries = before ++ (n, a) :: rest := by
  obtain ⟨smaller, larger⟩ := keys_around cut
  have ascending := m.ascending
  rw [cut, Ascending, List.pairwise_append, List.pairwise_cons] at ascending
  obtain ⟨ordered, -, ahead⟩ := ascending
  have beyond : ∀ e ∈ m'.entries.filter (n < ·.1), n < e.1 := by
    intro e he
    simpa using (List.mem_filter.mp he).2
  refine ⟨m'.entries.filter (n < ·.1), entries_eq ?_ ?_⟩
  · rw [Ascending, List.pairwise_append, List.pairwise_cons]
    refine ⟨ordered, ⟨fun e he => Std.compare_eq_lt.mpr (beyond e he), m'.ascending.filter _⟩, ?_⟩
    intro e he e' he'
    rcases List.mem_cons.mp he' with rfl | he'
    · exact ahead e he _ List.mem_cons_self
    · exact Std.compare_eq_lt.mpr (UInt16.lt_trans (smaller e he) (beyond e' he'))
  · intro k b
    have listed : (k, b) ∈ before ∨ (k, b) = (n, a) ∨ (k, b) ∈ after ↔ m.find? k = some b := by
      rw [← mem_entries_iff, cut, List.mem_append, List.mem_cons]
    rw [List.mem_append, List.mem_cons, List.mem_filter, mem_entries_iff]
    rcases UInt16.le_or_lt k n with le | gt
    · have notBeyond : ¬ n < k := UInt16.not_lt.mpr le
      have notAfter : (k, b) ∉ after := fun h => notBeyond (larger _ h)
      simp [agree k le, ← listed, notBeyond, notAfter]
    · have notBefore : (k, b) ∉ before := fun h => UInt16.lt_asymm gt (smaller _ h)
      have notHere : k ≠ n := (UInt16.ne_of_lt gt).symm
      simp [gt, notBefore, notHere]

end SortedMap

/-! ## 2. What a run shows -/

/-- What a turn wrote, the variables after it and its answer. -/
def Turn.shown {α : Type} (t : Turn α) : List String × Store × α :=
  (t.writes, t.interpreter.store, t.answer)

theorem Turn.shown_of_quiet {α : Type} {t u : Turn α} (h : t.quiet = u.quiet) :
    t.shown = u.shown := by
  obtain ⟨interpreter, writes, answer⟩ := Turn.quiet_eq_iff.mp h
  rw [Turn.shown, interpreter, writes, answer, Turn.shown]

theorem Turn.shown_andThen {α β γ : Type} (t : Turn α) (later : Turn β) (f : β → γ) :
    (t.andThen later f).shown
      = (t.writes ++ later.shown.1, later.shown.2.1, f later.shown.2.2) := rfl

namespace Interpreter

variable (out : Stream)

theorem executeStored_withProgram (i : Interpreter) (program : SortedMap UInt16 Line)
    (e : UInt16 × Line) :
    executeStored out { i with program := program } e
      = (i.executeStored out e).withProgram program :=
  executeStatement_withProgram out i program false _

/-- Executing stored lines one after the other does not depend on the program held. -/
theorem shown_untilFailure (wording : UInt16 × Line → Error → Error)
    (held held' : SortedMap UInt16 Line) (s : Store) (entries : List (UInt16 × Line)) :
    (untilFailure (executeStored out) wording ⟨held, s⟩ entries).shown
      = (untilFailure (executeStored out) wording ⟨held', s⟩ entries).shown := by
  induction entries generalizing held held' s with
  | nil => rfl
  | cons e entries ih =>
    have same := executeStored_withProgram out ⟨held, s⟩ held' e
    rw [untilFailure, untilFailure, same]
    cases answered : (executeStored out ⟨held, s⟩ e).answer with
    | some cause => simp [Turn.withProgram, Turn.shown, answered]
    | none =>
      have answered' : ((executeStored out ⟨held, s⟩ e).withProgram held').answer = none := answered
      have later := ih (executeStored out ⟨held, s⟩ e).interpreter.program held'
        (executeStored out ⟨held, s⟩ e).interpreter.store
      simp only [answered', Turn.shown_andThen, later]
      rfl

/-- **A run shows what its lines do**, whatever program is held. -/
theorem shown_run {program : SortedMap UInt16 Line} (nonempty : program.entries ≠ [])
    (held : SortedMap UInt16 Line) (s : Store) :
    (run out ⟨program, s⟩).shown
      = (untilFailure (executeStored out) (fun e => .atLine e.1) ⟨held, s⟩
          program.entries).shown := by
  have ran : run out ⟨program, s⟩ = runLines out ⟨program, s⟩ program.entries := by
    unfold run
    split
    · contradiction
    · rfl
  rw [ran, Turn.shown_of_quiet (quiet_runLines _ _ _)]
  exact shown_untilFailure out _ program held s program.entries

/-! ## 3. One program after another -/

/-- **Programs that lie apart run one after the other**, the second if the first did not fail. -/
theorem shown_run_together {first second whole : SortedMap UInt16 Line} (s : Store)
    (hfirst : first.entries ≠ []) (hsecond : second.entries ≠ [])
    (apart : ∀ m ∈ first.keys, ∀ n ∈ second.keys, m < n)
    (together : ∀ n, whole.find? n = (first.find? n).or (second.find? n)) :
    (run out ⟨whole, s⟩).shown
      = if (run out ⟨first, s⟩).answer.isNone then
          ((run out ⟨first, s⟩).andThen
            (run out ⟨second, (run out ⟨first, s⟩).interpreter.store⟩) id).shown
        else (run out ⟨first, s⟩).shown := by
  have listed : whole.entries = first.entries ++ second.entries :=
    SortedMap.entries_eq_append
      (fun m hm n hn => Std.compare_eq_lt.mpr (apart m hm n hn)) together
  set ended := untilFailure (executeStored out) (fun e => .atLine e.1) ⟨first, s⟩ first.entries
  have ran : (run out ⟨first, s⟩).shown = ended.shown := shown_run out hfirst first s
  have writes : (run out ⟨first, s⟩).writes = ended.writes := congrArg (·.1) ran
  have store : (run out ⟨first, s⟩).interpreter.store = ended.interpreter.store :=
    congrArg (·.2.1) ran
  have answer : (run out ⟨first, s⟩).answer = ended.answer := congrArg (·.2.2) ran
  rw [shown_run out (by simp [listed, hfirst]) first s, listed]
  cases answered : ended.answer with
  | some e =>
    rw [untilFailure_append_of_some answered, answer, answered, ran]
    rfl
  | none =>
    have later := shown_run out hsecond ended.interpreter.program ended.interpreter.store
    rw [untilFailure_append_of_none answered, answer, answered, Turn.shown_andThen,
      Turn.shown_andThen, writes, store, later]
    rfl

/-! ## 4. Where a run halts -/

/-- All stored lines before a number, one after the other. -/
def below (i : Interpreter) (n : UInt16) : Turn (List (Option Error)) :=
  i.each (executeStored out) (i.program.entries.filter (·.1 < n))

/-- The stored line with this number fails after all lines before it. -/
def FailsAt (i : Interpreter) (n : UInt16) (cause : Error) : Prop :=
  ∃ l, i.program.find? n = some l
    ∧ ((below out i n).interpreter.executeStored out (n, l)).answer = some cause

variable {out} {i : Interpreter} {n : UInt16} {cause : Error}

theorem FailsAt.exists_mem (fails : FailsAt out i n cause) : ∃ l, (n, l) ∈ i.program.entries := by
  obtain ⟨l, found, -⟩ := fails
  exact ⟨l, SortedMap.mem_entries_iff.mpr found⟩

/-- A line that fails is not among those that pass. -/
theorem FailsAt.notMem (fails : FailsAt out i n cause) {passed rest : List (UInt16 × Line)}
    (cut : i.program.entries = passed ++ rest)
    (pass : ∀ answer ∈ (i.each (executeStored out) passed).answer, answer = none) (l : Line) :
    (n, l) ∉ passed := by
  intro mem
  obtain ⟨l', found, failed⟩ := fails
  obtain ⟨before, after, rfl⟩ := List.append_of_mem mem
  rw [List.append_assoc, List.cons_append] at cut
  obtain rfl : l = l' := Option.some.inj ((SortedMap.find?_of_cut cut).symm.trans found)
  rw [below, SortedMap.filter_lt cut] at failed
  have none := pass _ (answer_mem_each (executeStored out) i before (n, l) after)
  rw [failed] at none
  cases none

variable {program : SortedMap UInt16 Line} {s : Store} {l : Line}
  {before after : List (UInt16 × Line)}

theorem isLeast_of_failure (cut : program.entries = before ++ (n, l) :: after)
    (pass : ∀ answer ∈ (each (executeStored out) ⟨program, s⟩ before).answer, answer = none)
    (fails : (executeStored out (each (executeStored out) ⟨program, s⟩ before).interpreter
      (n, l)).answer = some cause) :
    IsLeast {m | ∃ c, FailsAt out ⟨program, s⟩ m c} n := by
  constructor
  · refine ⟨cause, l, SortedMap.find?_of_cut cut, ?_⟩
    rwa [below, SortedMap.filter_lt cut]
  · rintro m ⟨c, failsAt⟩
    obtain ⟨l', mem⟩ := failsAt.exists_mem
    rw [cut] at mem
    rcases List.mem_append.mp mem with mem | mem
    · exact absurd mem (failsAt.notMem cut pass l')
    rcases List.mem_cons.mp mem with same | mem
    · exact UInt16.le_of_eq (congrArg Prod.fst same).symm
    · exact UInt16.le_of_lt ((SortedMap.keys_around cut).2 _ mem)

/-- What a run shows that halts at a line: what the lines before it did and what it did itself.
The program held may be any, and so may the lines behind. -/
theorem shown_run_of_failure (held : SortedMap UInt16 Line)
    (cut : program.entries = before ++ (n, l) :: after)
    (pass : ∀ answer ∈ (each (executeStored out) ⟨held, s⟩ before).answer, answer = none)
    (fails : (executeStored out (each (executeStored out) ⟨held, s⟩ before).interpreter
      (n, l)).answer = some cause) :
    (run out ⟨program, s⟩).shown
      = ((each (executeStored out) ⟨held, s⟩ before).andThen
          (executeStored out (each (executeStored out) ⟨held, s⟩ before).interpreter (n, l))
          fun _ => some (.atLine n cause)).shown := by
  rw [shown_run out (by simp [cut]) held s, cut, untilFailure_of_failure pass fails]

/-- **All lines pass, or there is a first that fails.** -/
theorem run_cases (out : Stream) (s : Store) (nonempty : program.entries ≠ []) :
    ((run out ⟨program, s⟩).answer = none ∧ ∀ n cause, ¬ FailsAt out ⟨program, s⟩ n cause)
      ∨ ∃ before n l after cause, program.entries = before ++ (n, l) :: after
        ∧ (∀ answer ∈ (each (executeStored out) ⟨program, s⟩ before).answer, answer = none)
        ∧ (executeStored out (each (executeStored out) ⟨program, s⟩ before).interpreter
          (n, l)).answer = some cause := by
  rcases pass_or_first_failure (executeStored out) ⟨program, s⟩ program.entries with pass |
    ⟨before, ⟨n, l⟩, after, cause, cut, pass, fails⟩
  · refine .inl ⟨?_, ?_⟩
    · have ran := shown_run out nonempty program s
      rw [untilFailure_of_pass pass] at ran
      exact congrArg (·.2.2) ran
    · intro n cause failsAt
      obtain ⟨l, mem⟩ := failsAt.exists_mem
      exact failsAt.notMem (List.append_nil _).symm pass l mem
  · exact .inr ⟨before, n, l, after, cause, cut, pass, fails⟩

/-! ## 5. Both together -/

/-- **A run is composed of the runs of its parts and halts at the first failure.**  Whatever the
variables at the start, two programs with lines of their own, those of one before those of the
other, run together as one after the other, unless the first fails, which is then all.  A run
never changes the program.  It fails iff a line does; it then ends at the least line that fails,
with that line's number on the error, shows what the lines before it did and what it did itself,
and shows the same with any other lines behind. -/
theorem run_in_parts (out : Stream) (s : Store) :
    (∀ first second whole : SortedMap UInt16 Line, first.entries ≠ [] → second.entries ≠ [] →
      (∀ m ∈ first.keys, ∀ n ∈ second.keys, m < n) →
      (∀ n, whole.find? n = (first.find? n).or (second.find? n)) →
      (run out ⟨whole, s⟩).shown
        = if (run out ⟨first, s⟩).answer.isNone then
            ((run out ⟨first, s⟩).andThen
              (run out ⟨second, (run out ⟨first, s⟩).interpreter.store⟩) id).shown
          else (run out ⟨first, s⟩).shown)
      ∧ (∀ program, (run out ⟨program, s⟩).interpreter.program = program)
      ∧ ∀ program : SortedMap UInt16 Line, program.entries ≠ [] →
        ((run out ⟨program, s⟩).answer = none ↔ ∀ n cause, ¬ FailsAt out ⟨program, s⟩ n cause)
        ∧ ∀ e, (run out ⟨program, s⟩).answer = some e →
          ∃ n l cause, e = .atLine n cause ∧ program.find? n = some l
            ∧ IsLeast {m | ∃ c, FailsAt out ⟨program, s⟩ m c} n
            ∧ (run out ⟨program, s⟩).shown
              = ((below out ⟨program, s⟩ n).andThen
                  ((below out ⟨program, s⟩ n).interpreter.executeStored out (n, l))
                  (Option.map (Error.atLine n))).shown
            ∧ ∀ other : SortedMap UInt16 Line, (∀ m ≤ n, other.find? m = program.find? m) →
              (run out ⟨other, s⟩).shown = (run out ⟨program, s⟩).shown := by
  refine ⟨fun first second whole => shown_run_together out s, fun program => program_run out _, ?_⟩
  intro program nonempty
  rcases run_cases out s nonempty with ⟨none, nowhere⟩ | ⟨before, n, l, after, cause, cut, pass,
    fails⟩
  · refine ⟨⟨fun _ => nowhere, fun _ => none⟩, ?_⟩
    intro e some
    rw [none] at some
    cases some
  · have shown := shown_run_of_failure program cut pass fails
    have least := isLeast_of_failure cut pass fails
    have answer : (run out ⟨program, s⟩).answer = some (.atLine n cause) := congrArg (·.2.2) shown
    refine ⟨⟨fun none => ?_, fun nowhere => ?_⟩, ?_⟩
    · rw [answer] at none
      cases none
    · obtain ⟨c, failsAt⟩ := least.1
      exact absurd failsAt (nowhere n c)
    · intro e some
      obtain rfl : Error.atLine n cause = e := Option.some.inj (answer.symm.trans some)
      refine ⟨n, l, cause, rfl, SortedMap.find?_of_cut cut, least, ?_, ?_⟩
      · rw [shown, below, SortedMap.filter_lt cut, Turn.shown_andThen, Turn.shown_andThen]
        simp only [Turn.shown, fails, Option.map_some]
      · intro other agree
        obtain ⟨rest, listed⟩ := SortedMap.entries_of_agree cut agree
        rw [shown, shown_run_of_failure program listed pass fails]

/-- A line that prints and, as another program, an assignment that breaks off. -/
theorem run_in_parts_two_lines :
    let printing : Line := ⟨[.leaf .lineNumber "10", .leaf .statementName "PRINT"]⟩
    let broken : Line :=
      ⟨[.leaf .lineNumber "20", .leaf .statementName "LET", .leaf .identifier "X"]⟩
    let whole : SortedMap UInt16 Line := (SortedMap.insert ∅ 10 printing).insert 20 broken
    (run {} ⟨whole, .empty 10⟩).shown
        = (["\n"], .empty 10, some (.atLine 20 (.missingEquals (.scalar "X"))))
      ∧ IsLeast {m | ∃ c, FailsAt {} ⟨whole, .empty 10⟩ m c} 20 := by
  intro printing broken whole
  obtain ⟨parts, -, halts⟩ := run_in_parts {} (.empty 10)
  have together : ∀ n, whole.find? n = ((SortedMap.insert ∅ 10 printing).find? n).or
      ((SortedMap.insert ∅ 20 broken).find? n) := by
    intro n
    simp only [whole, SortedMap.find?_insert, SortedMap.find?_empty,
      Std.LawfulEqOrd.compare_eq_iff_eq]
    by_cases twenty : n = 20
    · simp [twenty]
    · simp [twenty]
  have value : (run {} ⟨whole, .empty 10⟩).shown
      = (["\n"], .empty 10, some (.atLine 20 (.missingEquals (.scalar "X")))) := by
    refine (parts (SortedMap.insert ∅ 10 printing) (SortedMap.insert ∅ 20 broken) whole
      (List.cons_ne_nil _ _) (List.cons_ne_nil _ _) ?_ together).trans rfl
    intro m hm n hn
    obtain rfl : m = 10 := List.mem_singleton.mp hm
    obtain rfl : n = 20 := List.mem_singleton.mp hn
    decide
  refine ⟨value, ?_⟩
  obtain ⟨-, failing⟩ := halts whole (List.cons_ne_nil _ _)
  obtain ⟨n, l, cause, same, -, least, -⟩ := failing _ (congrArg (·.2.2) value)
  cases same
  exact least

end Interpreter

end LineBasic
