/-
# A source as its physical lines

The physical lines of a source are what stands between its newlines, whatever that may be.  They
are the lines that are read as long as no newline lies inside a string, that is, as long as every
physical line but the last has an even number of quotes (`NewlinesOutsideStrings`): then a newline
ends a line, and behind it reading begins anew (`lines_append_newline`).

The numbers of the lines agree too, blank lines included.  The only difference can be at the end:
what follows the last newline is no line if it has no token.  Since a blank line does nothing, a
source does to an interpreter what its physical lines do one by one.
-/
import Mathlib
import LineBasic.Proofs.Sequences
import LineBasic.Proofs.StoredStatements
import LineBasic.Proofs.TokenText

namespace LineBasic

namespace Source

/-! ## 1. Cutting at newlines -/

/-- What stands between the newlines of a source. -/
def physicalLines (source : String) : List String :=
  (source.toList.splitOn '\n').map String.ofList

/-- No newline lies inside a string: every physical line but the last has an even number of
quotes. -/
def NewlinesOutsideStrings (source : String) : Prop :=
  ∀ line ∈ (physicalLines source).dropLast, Even (line.toList.count '"')

instance (source : String) : Decidable (NewlinesOutsideStrings source) :=
  inferInstanceAs (Decidable (∀ line ∈ (physicalLines source).dropLast, _))

theorem physicalLines_ne_nil (source : String) : physicalLines source ≠ [] := by
  simp [physicalLines]

theorem physicalLines_of_notMem {a : String} (h : '\n' ∉ a.toList) : physicalLines a = [a] := by
  rw [physicalLines, List.splitOn_eq_singleton h, List.map_singleton, String.ofList_toList]

theorem physicalLines_append_newline {a : String} (h : '\n' ∉ a.toList) (b : String) :
    physicalLines (a ++ "\n" ++ b) = a :: physicalLines b := by
  have hl : (a ++ "\n" ++ b).toList = a.toList ++ '\n' :: b.toList := by simp
  rw [physicalLines, hl, List.splitOn_append_cons_self_of_not_mem h, List.map_cons,
    String.ofList_toList, physicalLines]

/-- A text is one physical line, or begins with one that a newline ends. -/
theorem physicalLine_induction {P : String → Prop} (last : ∀ a, '\n' ∉ a.toList → P a)
    (more : ∀ a b, '\n' ∉ a.toList → P b → P (a ++ "\n" ++ b)) (source : String) : P source := by
  generalize hn : source.toList.length = n
  induction n using Nat.strong_induction_on generalizing source with
  | _ n ih =>
    by_cases mem : '\n' ∈ source.toList
    · obtain ⟨as, bs, cut, first⟩ := List.eq_append_cons_of_mem mem
      have whole : source = String.ofList as ++ "\n" ++ String.ofList bs := by
        rw [← String.toList_inj]
        simpa using cut
      have shorter : (String.ofList bs).toList.length < n := by
        rw [← hn, cut, String.toList_ofList, List.length_append, List.length_cons]
        omega
      rw [whole]
      exact more _ _ (by simpa using first) (ih _ shorter _ rfl)
    · exact last source mem

theorem newline_notMem_physicalLines {source line : String} (h : line ∈ physicalLines source) :
    '\n' ∉ line.toList := by
  induction source using physicalLine_induction with
  | last a ha =>
    rw [physicalLines_of_notMem ha, List.mem_singleton] at h
    rwa [h]
  | more a b ha ih =>
    rw [physicalLines_append_newline ha] at h
    rcases List.mem_cons.mp h with rfl | h
    · exact ha
    · exact ih h

/-! ## 2. Reading the physical lines -/

/-- The line that a text without newlines is. -/
def lineOf (text : String) : Line := (readLine (Token.tokens text)).value

theorem lines_of_notMem {a : String} (h : '\n' ∉ a.toList) :
    lines a = [lineOf a] ∨ lines a = [] ∧ lineOf a = ⟨[]⟩ := by
  rw [lines_eq, lineOf]
  by_cases nothing : Token.tokens a = []
  · rw [nothing]
    exact .inr ⟨rfl, congrArg Line.mk nodes_readLine_nil⟩
  · rw [segments_of_notMem (Token.newline_notMem_tokens h) nothing]
    exact .inl rfl

/-- **A newline outside strings ends a line**, and reading begins anew behind it. -/
theorem lines_append_newline {a : String} (h : '\n' ∉ a.toList)
    (even : Even (a.toList.count '"')) (b : String) :
    lines (a ++ "\n" ++ b) = lineOf a :: lines b := by
  rw [lines_eq, Token.tokens_append_newline (Token.outsideString_iff.mpr even),
    segments_append_newline (Token.newline_notMem_tokens h), List.map_cons, ← lines_eq, lineOf]

/-- **The lines of a source are its physical lines**, up to a blank one at its end. -/
theorem map_lineOf_physicalLines {source : String} (h : NewlinesOutsideStrings source) :
    (physicalLines source).map lineOf = lines source
      ∨ (physicalLines source).map lineOf = lines source ++ [⟨[]⟩] := by
  induction source using physicalLine_induction with
  | last a ha =>
    rw [physicalLines_of_notMem ha, List.map_singleton]
    rcases lines_of_notMem ha with one | ⟨none, blank⟩
    · exact .inl one.symm
    · exact .inr (by rw [none, blank, List.nil_append])
  | more a b ha ih =>
    rw [NewlinesOutsideStrings, physicalLines_append_newline ha,
      List.dropLast_cons_of_ne_nil (physicalLines_ne_nil b), List.forall_mem_cons] at h
    rw [physicalLines_append_newline ha, lines_append_newline ha h.1, List.map_cons,
      List.cons_append, List.cons_inj_right, List.cons_inj_right]
    exact ih h.2

end Source

namespace Interpreter

open Source (Line physicalLines lineOf)

variable (out : Stream) (i : Interpreter)

/-! ## 3. Blank lines -/

theorem enterLine_blank : i.enterLine out ⟨[]⟩ = i.idle [] none := rfl

theorem quiet_enterLines_blank (ls : List Line) :
    (i.enterLines out (ls ++ [⟨[]⟩])).quiet = (i.enterLines out ls).quiet := by
  rw [enterLines_eq_untilFailure, enterLines_eq_untilFailure]
  cases answered : (i.untilFailure (enterLine out) (fun _ => id) ls).answer with
  | some e => rw [untilFailure_append_of_some answered]
  | none =>
    rw [untilFailure_append_of_none answered, ← enterLines_eq_untilFailure,
      ← enterLines_eq_untilFailure, enterLines_singleton, enterLine_blank]
    rw [← enterLines_eq_untilFailure] at answered
    exact Turn.quiet_eq_iff.mpr ⟨rfl, List.append_nil _, answered.symm⟩

theorem warnings_concat_none (first : Nat) (answers : List (Option Error)) :
    warnings first (answers ++ [none]) = warnings first answers := by
  simp [warnings, List.zipIdx_append]

theorem quiet_loadLines_blank (first : Nat) (ls : List Line) :
    (i.loadLines out first (ls ++ [⟨[]⟩])).quiet = (i.loadLines out first ls).quiet := by
  obtain ⟨interpreter, writes, answer⟩ :=
    Turn.quiet_eq_iff.mp (each_append (enterLine out) i ls [⟨[]⟩])
  rw [quiet_loadLines, quiet_loadLines, Turn.quiet_eq_iff]
  refine ⟨interpreter, writes.trans (List.append_nil _), ?_⟩
  show warnings first (each (enterLine out) i (ls ++ [⟨[]⟩])).answer = _
  rw [answer]
  exact warnings_concat_none first _

/-! ## 4. One physical line after the other -/

/-- A text without newlines is one line, which may be blank. -/
theorem quiet_enter_physicalLine {text : String} (h : '\n' ∉ text.toList) :
    (i.enter out text).quiet = (i.enterLine out (lineOf text)).quiet := by
  rw [enter_eq, Turn.quiet_after]
  rcases Source.lines_of_notMem h with one | ⟨none, blank⟩
  · rw [one, enterLines_singleton]
  · rw [none, blank, enterLine_blank]
    rfl

section

variable {source : String} (h : Source.NewlinesOutsideStrings source)

include h

theorem quiet_enter_eq_untilFailure :
    (i.enter out source).quiet
      = (i.untilFailure (enter out) (fun _ => id) (physicalLines source)).quiet := by
  have same : (i.enterLines out (Source.lines source)).quiet
      = (i.enterLines out ((physicalLines source).map lineOf)).quiet := by
    rcases Source.map_lineOf_physicalLines h with all | blank
    · rw [all]
    · rw [blank, quiet_enterLines_blank]
  rw [enter_eq, Turn.quiet_after, same, enterLines_eq_untilFailure, eq_comm]
  refine quiet_untilFailure_map i fun j line mem => ?_
  exact quiet_enter_physicalLine out j (Source.newline_notMem_physicalLines mem)

theorem quiet_load_eq_each :
    (i.load out source).quiet
      = ({ i.each (enter out) (physicalLines source) with
          answer := warnings 1 (i.each (enter out) (physicalLines source)).answer }
          : Turn (List Error)).quiet := by
  have same : (i.loadLines out 1 (Source.lines source)).quiet
      = (i.loadLines out 1 ((physicalLines source).map lineOf)).quiet := by
    rcases Source.map_lineOf_physicalLines h with all | blank
    · rw [all]
    · rw [blank, quiet_loadLines_blank]
  have typed : (i.each (enter out) (physicalLines source)).quiet
      = (i.each (enterLine out) ((physicalLines source).map lineOf)).quiet := by
    refine quiet_each_map _ i fun j line mem => ?_
    exact quiet_enter_physicalLine out j (Source.newline_notMem_physicalLines mem)
  obtain ⟨interpreter, writes, answer⟩ := Turn.quiet_eq_iff.mp typed
  rw [load_eq, Turn.quiet_after, same, quiet_loadLines]
  exact Turn.quiet_eq_iff.mpr ⟨interpreter.symm, writes.symm, congrArg (warnings 1) answer.symm⟩

end

/-- **Loading a source is entering its physical lines one by one.**  If no newline lies inside a
string, the source leaves the same program, the same variables and the same output as its physical
lines do, and there is one warning for each of them that fails, with its number and its error.
Entering the source as a whole does the same up to the first that fails. -/
theorem load_eq_typing {source : String} (h : Source.NewlinesOutsideStrings source) :
    let typed := i.each (enter out) (physicalLines source)
    let stopped := i.untilFailure (enter out) (fun _ => id) (physicalLines source)
    ((i.load out source).interpreter = typed.interpreter
        ∧ (i.load out source).writes = typed.writes
        ∧ (i.load out source).answer = warnings 1 typed.answer)
      ∧ (i.enter out source).interpreter = stopped.interpreter
        ∧ (i.enter out source).writes = stopped.writes
        ∧ (i.enter out source).answer = stopped.answer :=
  ⟨Turn.quiet_eq_iff.mp (quiet_load_eq_each out i h),
    Turn.quiet_eq_iff.mp (quiet_enter_eq_untilFailure out i h)⟩

/-- A stored line with a string, a blank line and two that fail. -/
theorem load_eq_typing_two_warnings :
    Source.NewlinesOutsideStrings "10 \"\"\n\n99999\nX"
      ∧ ((new 10).load {} "10 \"\"\n\n99999\nX").answer
        = [.inSource 3 (.lineNumber "99999" .outOfRange),
            .inSource 4 (.missingEquals (.scalar "X"))]
      ∧ ((new 10).enter {} "10 \"\"\n\n99999\nX").answer
        = some (.lineNumber "99999" .outOfRange) := by
  have outside : Source.NewlinesOutsideStrings "10 \"\"\n\n99999\nX" := by decide
  have cut : physicalLines "10 \"\"\n\n99999\nX" = ["10 \"\"", "", "99999", "X"] := by decide
  obtain ⟨⟨-, -, loaded⟩, -, -, entered⟩ := load_eq_typing {} (new 10) outside
  rw [cut] at loaded entered
  exact ⟨outside, loaded.trans (by cbv), entered.trans (by cbv)⟩

end Interpreter

end LineBasic
