/-
# The program and its history

Which lines a program holds is said here without storing anything.  A history processes lines: a
text that is entered those up to the first that fails, a source that is loaded all of them, and a
clearing forgets those before it (`processed`).  Under a number the program holds **the last line
processed with that number, if it has a statement** (`held`, `find?_after`).

The law comes from what one line does to what is found (`find?_enterLine`), then for lines one after
the other (`find?_each_enterLine`), then for operations (`find?_apply`).  Numbers are compared by
their value, and only the last line with a number counts.  So numbered lines may come in any order
that keeps those with the same number in theirs (`each_enterLine_reordered`).
-/
import Mathlib
import LineBasic.Proofs.History
import LineBasic.Proofs.MapEntries
import LineBasic.Proofs.Sequences
import LineBasic.Proofs.StoredStatements

namespace LineBasic

open Source (Line)

/-! ## 1. The number of a line -/

instance (text : String) (n : UInt16) : Decidable (LineNumber.IsDecimal text n) :=
  decidable_of_iff (text.toList ≠ [] ∧ (∀ c ∈ text.toList, c.isDigit)
      ∧ Nat.ofDigitChars 10 text.toList 0 = n.toNat)
    ⟨fun h => ⟨h.1, h.2.1, h.2.2⟩, fun h => ⟨h.nonempty, h.digits, h.value⟩⟩

namespace Source.Line

/-- The line number as it is written, if the line begins with one. -/
def numberText? (l : Line) : Option String :=
  match l.nodes with
  | .mk .lineNumber text _ :: _ => some text
  | _ => none

/-- The line begins with a line number of the given value. -/
def HasNumber (l : Line) (n : UInt16) : Prop :=
  ∃ text ∈ l.numberText?, LineNumber.IsDecimal text n

instance (l : Line) (n : UInt16) : Decidable (l.HasNumber n) :=
  inferInstanceAs (Decidable (∃ text ∈ l.numberText?, LineNumber.IsDecimal text n))

/-- What a numbered line leaves under its number: itself, or nothing if no statement follows. -/
def kept? (l : Line) : Option Line := if (l.nodes.drop 1).isEmpty then none else some l

end Source.Line

namespace Interpreter

theorem parts_eq_ok_some_iff {l : Line} {n : UInt16} {statement : List Node} :
    parts l = .ok ⟨some n, statement⟩ ↔ l.HasNumber n ∧ statement = l.nodes.drop 1 := by
  constructor
  · intro h
    obtain ⟨number, children, hnodes⟩ := parts_eq_ok_some h
    have written : number ∈ l.numberText? := by simp [Line.numberText?, hnodes]
    rw [parts, hnodes] at h
    cases hparse : LineNumber.parse number with
    | error problem => simp [hparse] at h
    | ok m =>
      obtain rfl : m = n := by
        simp only [hparse, if_true, Except.ok.injEq, Parts.mk.injEq, Option.some.injEq] at h
        exact h.1
      exact ⟨⟨number, written, LineNumber.parse_eq_ok_iff.mp hparse⟩, by simp [hnodes]⟩
  · rintro ⟨⟨number, written, decimal⟩, rfl⟩
    unfold Line.numberText? at written
    split at written
    · rename_i text children rest hnodes
      obtain rfl : text = number := by simpa using written
      simp [parts, hnodes, LineNumber.parse_eq_ok_iff.mpr decimal]
    · cases written

/-- A line has one number at most. -/
theorem hasNumber_unique {l : Line} {m n : UInt16} (hm : l.HasNumber m) (hn : l.HasNumber n) :
    m = n := by
  have first := parts_eq_ok_some_iff.mpr ⟨hm, rfl⟩
  rw [parts_eq_ok_some_iff.mpr ⟨hn, rfl⟩] at first
  simpa using first.symm

theorem hasNumber_storedLine {number : String} {n : UInt16} (hn : LineNumber.IsDecimal number n)
    (text : String) : (storedLine number text).HasNumber n := ⟨number, rfl, hn⟩

/-! ## 2. Lines taken in -/

variable (out : Stream)

/-- A numbered line goes into the program, and that is all it does. -/
theorem enterLine_of_hasNumber {l : Line} {n : UInt16} (h : l.HasNumber n) (i : Interpreter) :
    (i.enterLine out l).answer = none ∧ (i.enterLine out l).interpreter.store = i.store
      ∧ (i.enterLine out l).interpreter.program
        = (if (l.nodes.drop 1).isEmpty then i.program.erase n else i.program.insert n l) := by
  have hparts := parts_eq_ok_some_iff.mpr ⟨h, rfl⟩
  by_cases bare : l.nodes.drop 1 = []
  · rw [bare] at hparts
    rw [enterLine_removed out i hparts, bare]
    exact ⟨rfl, rfl, rfl⟩
  · rw [enterLine_stored out i hparts bare, if_neg (by simpa using bare)]
    exact ⟨rfl, rfl, rfl⟩

/-- Any other line leaves the program alone. -/
theorem program_enterLine_of_not_hasNumber {l : Line} (h : ∀ n, ¬ l.HasNumber n)
    (i : Interpreter) : (i.enterLine out l).interpreter.program = i.program := by
  cases hparts : parts l with
  | error e => simp [enterLine, hparts, idle]
  | ok p =>
    obtain ⟨_ | n, statement⟩ := p
    · by_cases hne : statement = []
      · simp [enterLine, hparts, hne, idle]
      · rw [enterLine_immediate out i hparts hne, program_executeStatement]
    · exact absurd (parts_eq_ok_some_iff.mp hparts).1 (h n)

/-- **What is found after a line**: under its number what it leaves there, elsewhere what was found
before. -/
theorem find?_enterLine (i : Interpreter) (l : Line) (n : UInt16) :
    (i.enterLine out l).interpreter.program.find? n
      = if l.HasNumber n then l.kept? else i.program.find? n := by
  by_cases numbered : ∃ m, l.HasNumber m
  · obtain ⟨m, hm⟩ := numbered
    have same : compare n m = .eq ↔ l.HasNumber n := by
      constructor
      · intro h
        rwa [Std.LawfulEqCmp.eq_of_compare h]
      · intro hn
        rw [hasNumber_unique hn hm]
        exact Std.ReflOrd.compare_self
    rw [(enterLine_of_hasNumber out hm i).2.2]
    unfold Line.kept?
    split_ifs <;> simp_all
  · have unnumbered : ∀ m, ¬ l.HasNumber m := fun m hm => numbered ⟨m, hm⟩
    rw [program_enterLine_of_not_hasNumber out unnumbered, if_neg (unnumbered n)]

/-- The last of some lines that has the number. -/
def lastNumbered (ls : List Line) (n : UInt16) : Option Line :=
  ls.reverse.find? fun l => l.HasNumber n

theorem lastNumbered_append (ls ls' : List Line) (n : UInt16) :
    lastNumbered (ls ++ ls') n = (lastNumbered ls' n).or (lastNumbered ls n) := by
  simp [lastNumbered]

/-- **What is found after lines taken in one after the other** goes by the last with the number. -/
theorem find?_each_enterLine (i : Interpreter) (ls : List Line) (n : UInt16) :
    (i.each (enterLine out) ls).interpreter.program.find? n
      = match lastNumbered ls n with
        | some l => l.kept?
        | none => i.program.find? n := by
  induction ls using List.reverseRecOn with
  | nil => rfl
  | append_singleton ls l ih =>
    rw [interpreter_each_append, lastNumbered_append]
    show ((i.each (enterLine out) ls).interpreter.enterLine out l).interpreter.program.find? n = _
    rw [find?_enterLine]
    by_cases h : l.HasNumber n
    · simp [lastNumbered, h]
    · rw [if_neg h, ih]
      simp [lastNumbered, h]

/-! ## 3. Histories -/

/-- What the program should hold under a number after the lines processed: the last line with that
number, if it has a statement. -/
def held (log : List Line) (n : UInt16) : Option Line := (lastNumbered log n).bind Line.kept?

/-- The lines processed since the last clearing, after one more operation.  A text that is entered
is processed up to the first line that fails. -/
def Operation.record (i : Interpreter) (log : List Line) : Operation → List Line
  | .enter out text => log ++ i.attempted (enterLine out) (Source.lines text)
  | .load _ source => log ++ Source.lines source
  | .run _ | .execute _ _ | .list _ => log
  | .clear => []

/-- The lines processed since the last clearing, after a history. -/
def processed (i : Interpreter) (log : List Line) : List Operation → List Line
  | [] => log
  | o :: history => processed (o.apply i) (o.record i log) history

/-- Lines taken in are lines added to the log. -/
theorem find?_each_enterLine_held {i : Interpreter} {log : List Line}
    (h : ∀ n, i.program.find? n = held log n) (ls : List Line) (n : UInt16) :
    (i.each (enterLine out) ls).interpreter.program.find? n = held (log ++ ls) n := by
  rw [find?_each_enterLine, h n, held, held, lastNumbered_append]
  cases lastNumbered ls n <;> rfl

theorem interpreter_enter (i : Interpreter) (text : String) :
    (i.enter out text).interpreter
      = (i.each (enterLine out) (i.attempted (enterLine out) (Source.lines text))).interpreter := by
  rw [enter_eq, Turn.interpreter_after, enterLines_eq_untilFailure, interpreter_untilFailure]

theorem interpreter_load (i : Interpreter) (source : String) :
    (i.load out source).interpreter
      = (i.each (enterLine out) (Source.lines source)).interpreter := by
  rw [load_eq, Turn.interpreter_after]
  exact (Turn.quiet_eq_iff.mp (quiet_loadLines i out 1 (Source.lines source))).1

/-- **One operation**: if the program is what the log says, it is so afterwards. -/
theorem find?_apply {i : Interpreter} {log : List Line}
    (h : ∀ n, i.program.find? n = held log n) (o : Operation) (n : UInt16) :
    (o.apply i).program.find? n = held (o.record i log) n := by
  cases o with
  | enter out text =>
    rw [Operation.apply, interpreter_enter]
    exact find?_each_enterLine_held out h _ n
  | load out source =>
    rw [Operation.apply, interpreter_load]
    exact find?_each_enterLine_held out h _ n
  | run out =>
    rw [Operation.apply, program_run]
    exact h n
  | execute out l =>
    rw [Operation.apply, program_execute]
    exact h n
  | list out =>
    rw [Operation.apply, interpreter_list]
    exact h n
  | clear => rfl

/-- **A whole history.** -/
theorem find?_after {i : Interpreter} {log : List Line}
    (h : ∀ n, i.program.find? n = held log n) (history : List Operation) (n : UInt16) :
    (i.after history).program.find? n = held (processed i log history) n := by
  induction history generalizing i log with
  | nil => exact h n
  | cons o history ih => exact ih (find?_apply h o)

/-! ## 4. Numbered lines in another order -/

theorem lastNumbered_eq_getLast? (ls : List Line) (n : UInt16) :
    lastNumbered ls n = (ls.filter fun l => l.HasNumber n).getLast? := by
  rw [lastNumbered, ← List.head?_filter, List.filter_reverse, List.head?_reverse]

theorem store_each_enterLine {ls : List Line} (numbered : ∀ l ∈ ls, ∃ n, l.HasNumber n)
    (i : Interpreter) : (i.each (enterLine out) ls).interpreter.store = i.store := by
  refine each_induction (enterLine out) i (P := fun j => j.store = i.store) ?_ rfl
  intro j l hl hj
  obtain ⟨n, hn⟩ := numbered l hl
  rw [(enterLine_of_hasNumber out hn j).2.1, hj]

/-- **Only the order of lines with the same number matters.** -/
theorem each_enterLine_reordered {ls ls' : List Line} (numbered : ∀ l ∈ ls, ∃ n, l.HasNumber n)
    (reordered : ls.Perm ls')
    (same : ∀ n, (ls.filter fun l => l.HasNumber n) = ls'.filter fun l => l.HasNumber n)
    (i : Interpreter) :
    (i.each (enterLine out) ls).interpreter = (i.each (enterLine out) ls').interpreter := by
  have numbered' : ∀ l ∈ ls', ∃ n, l.HasNumber n := fun l hl =>
    numbered l (reordered.mem_iff.mpr hl)
  have program : (i.each (enterLine out) ls).interpreter.program
      = (i.each (enterLine out) ls').interpreter.program := by
    refine SortedMap.ext_find? fun n => ?_
    rw [find?_each_enterLine, find?_each_enterLine, lastNumbered_eq_getLast?,
      lastNumbered_eq_getLast?, same n]
  have store := (store_each_enterLine out numbered i).trans
    (store_each_enterLine out numbered' i).symm
  generalize (i.each (enterLine out) ls).interpreter = j at program store ⊢
  generalize (i.each (enterLine out) ls').interpreter = j' at program store ⊢
  obtain ⟨_, _⟩ := j
  obtain ⟨_, _⟩ := j'
  cases program
  cases store
  rfl

/-- Texts of numbered lines are entered to their end, so they may be split anywhere. -/
theorem each_enter_of_hasNumber {texts : List String}
    (numbered : ∀ l ∈ texts.flatMap Source.lines, ∃ n, l.HasNumber n) (i : Interpreter) :
    (i.each (enter out) texts).interpreter
      = (i.each (enterLine out) (texts.flatMap Source.lines)).interpreter := by
  induction texts generalizing i with
  | nil => rfl
  | cons text texts ih =>
    have all : i.attempted (enterLine out) (Source.lines text) = Source.lines text := by
      refine attempted_of_forall fun j l hl => ?_
      obtain ⟨n, hn⟩ := numbered l (by simp [hl])
      exact (enterLine_of_hasNumber out hn j).1
    show ((i.enter out text).interpreter.each (enter out) texts).interpreter = _
    rw [ih fun l hl => numbered l (by simp only [List.flatMap_cons, List.mem_append, hl, or_true]),
      interpreter_enter, all, List.flatMap_cons, interpreter_each_append]

/-! ## 5. The listing -/

theorem exists_lineTexts_of_text {entries : List (UInt16 × Line)}
    (h : ∀ e ∈ entries, ∃ text, e.2.text = .ok text) :
    ∃ texts, lineTexts entries = .ok texts
      ∧ texts.map Except.ok = entries.map fun e => e.2.text.map (· ++ "\n") := by
  induction entries with
  | nil => exact ⟨[], rfl, rfl⟩
  | cons e entries ih =>
    obtain ⟨text, htext⟩ := h e (by simp)
    obtain ⟨texts, hlines, htexts⟩ := ih fun e' he' => h e' (by simp [he'])
    refine ⟨(text ++ "\n") :: texts, ?_, ?_⟩
    · rw [lineTexts, htext, hlines]
      rfl
    · rw [List.map_cons, List.map_cons, htexts, htext]
      rfl

/-- **A program that a history can lead to is listed line by line.** -/
theorem list_of_reachable {i : Interpreter} (h : Reachable i) :
    (i.list {}).answer = none
      ∧ (i.list {}).writes.map Except.ok
        = i.program.entries.map fun e => e.2.text.map (· ++ "\n") := by
  obtain ⟨texts, hlines, htexts⟩ := exists_lineTexts_of_text fun e he =>
    (fromSource_of_reachable h e he).exists_text
  rw [← htexts]
  unfold list
  rw [hlines]
  cases texts <;> exact ⟨rfl, rfl⟩

/-- **The program is the map of the last lines processed.**  After any history:

* under each number the program holds the last line processed with that number since the last
  clearing, if that line has a statement, and else nothing;
* its size is the number of these lines, and the listing writes each of them once, in strictly
  ascending order of their numbers;
* texts of numbered lines that are then entered lead to the same listing and the same run as the
  same lines in another order, provided that lines with the same number keep theirs. -/
theorem program_of_history (arraySize : Int) (history : List Operation) :
    let i := (new arraySize).after history
    let log := processed (new arraySize) [] history
    (∀ n, i.program.find? n = held log n)
      ∧ (∃ entries : List (UInt16 × Line), (entries.Pairwise fun a b => a.1 < b.1)
          ∧ (∀ n l, (n, l) ∈ entries ↔ held log n = some l)
          ∧ i.size = entries.length
          ∧ (i.list {}).answer = none
          ∧ (i.list {}).writes.map Except.ok = entries.map fun e => e.2.text.map (· ++ "\n"))
      ∧ ∀ (out : Stream) (texts texts' : List String),
          let ls := texts.flatMap Source.lines
          let ls' := texts'.flatMap Source.lines
          (∀ l ∈ ls, ∃ n, l.HasNumber n) → ls.Perm ls' →
          (∀ n, (ls.filter fun l => l.HasNumber n) = ls'.filter fun l => l.HasNumber n) →
          let j := (i.each (enter out) texts).interpreter
          let j' := (i.each (enter out) texts').interpreter
          j.source = j'.source ∧ ∀ out, j.run out = j'.run out := by
  intro i log
  have found : ∀ n, i.program.find? n = held log n := find?_after (fun _ => rfl) history
  refine ⟨found, ⟨i.program.entries, ?_, ?_, rfl, list_of_reachable ?_⟩, ?_⟩
  · exact i.program.ascending.imp Std.compare_eq_lt.mp
  · intro n l
    rw [SortedMap.mem_entries_iff, found n]
  · exact (Reachable.new arraySize).after history
  · intro out texts texts' ls ls' numbered reordered same j j'
    have numbered' : ∀ l ∈ ls', ∃ n, l.HasNumber n := fun l hl =>
      numbered l (reordered.mem_iff.mpr hl)
    have equal : j = j' := by
      rw [show j = _ from each_enter_of_hasNumber out numbered i,
        show j' = _ from each_enter_of_hasNumber out numbered' i]
      exact each_enterLine_reordered out numbered reordered same i
    rw [equal]
    exact ⟨rfl, fun _ => rfl⟩

/-- A line with another number moves past two with the same number. -/
theorem program_of_history_three_lines :
    let i := (new 10).after [.enter {} "30 PRINT 1\n30", .run {}]
    let j := (i.each (enter {}) ["20 PRINT X", "10 X=1", "010 X=2"]).interpreter
    let j' := (i.each (enter {}) ["10 X=1", "010 X=2", "20 PRINT X"]).interpreter
    j.source = j'.source ∧ ∀ out, j.run out = j'.run out := by
  have hten : LineNumber.IsDecimal "10" 10 := ⟨by decide, by simp, by decide⟩
  have hagain : LineNumber.IsDecimal "010" 10 := ⟨by decide, by simp, by decide⟩
  have htwenty : LineNumber.IsDecimal "20" 20 := ⟨by decide, by simp, by decide⟩
  have lten : Source.lines "10 X=1" = [storedLine "10" "X=1"] := by
    rw [show "10 X=1" = "10" ++ " " ++ "X=1" from by decide]
    exact IsStatementText.lines_stored ⟨by decide, by decide, by decide⟩ hten
  have lagain : Source.lines "010 X=2" = [storedLine "010" "X=2"] := by
    rw [show "010 X=2" = "010" ++ " " ++ "X=2" from by decide]
    exact IsStatementText.lines_stored ⟨by decide, by decide, by decide⟩ hagain
  have ltwenty : Source.lines "20 PRINT X" = [storedLine "20" "PRINT X"] := by
    rw [show "20 PRINT X" = "20" ++ " " ++ "PRINT X" from by decide]
    exact IsStatementText.lines_stored ⟨by decide, by decide, by decide⟩ htwenty
  have order := (program_of_history 10 [.enter {} "30 PRINT 1\n30", .run {}]).2.2 {}
    ["20 PRINT X", "10 X=1", "010 X=2"] ["10 X=1", "010 X=2", "20 PRINT X"]
  simp only [List.flatMap_cons, List.flatMap_nil, lten, lagain, ltwenty, List.cons_append,
    List.nil_append] at order
  refine order ?_ ?_ ?_
  · simp only [List.forall_mem_cons]
    exact ⟨⟨20, hasNumber_storedLine htwenty _⟩, ⟨10, hasNumber_storedLine hten _⟩,
      ⟨10, hasNumber_storedLine hagain _⟩, by simp⟩
  · exact @List.perm_append_comm _ [_] [_, _]
  · intro n
    by_cases h : (storedLine "20" "PRINT X").HasNumber n
    · have other : ∀ l : Line, l.HasNumber 10 → ¬ l.HasNumber n := fun l hl hl' => by
        rw [← hasNumber_unique hl hl'] at h
        exact absurd (hasNumber_unique h (hasNumber_storedLine htwenty _)) (by decide)
      simp [h, other _ (hasNumber_storedLine hten _), other _ (hasNumber_storedLine hagain _)]
    · simp [h, List.filter_cons]

end Interpreter

end LineBasic
