/-
# The invariant of a program

The operations on an interpreter rely on conditions that they do not test: that a stored line has a
number to be dropped and a statement behind it, that its nodes are of known kinds, that an
expression has three parts, that an array can be made.  All of them come from one invariant, which
every history keeps (`sound_of_history`).

* A stored line is **sound** (`IsSoundLine`): its number, then a node that is no identifier, all
  trees well formed and nothing left to fold.  It was read from a text, so its trees have grown out
  of leaves; a `LET` stands before an identifier; and neither the number nor the `LET` can be in a
  window.
* The size of new arrays is positive, since other sizes are ignored when a store is made.

With that no operation meets a fault, whatever the text it is given.
-/
import Mathlib
import LineBasic.Proofs.FaultFree
import LineBasic.Proofs.ProgramStore

namespace LineBasic

open Fold (AllGrown Grown)
open Source (Line classify completed kindOf readLine statementNodes)

/-! ## 1. Well-formed trees -/

namespace Node

mutual

/-- All nodes of a tree, the node itself first. -/
def subtrees : Node → List Node
  | hole => [hole]
  | mk kind value children => mk kind value children :: subtreesAll children

/-- All nodes of a list of trees. -/
def subtreesAll : List Node → List Node
  | [] => []
  | n :: ns => subtrees n ++ subtreesAll ns

end

/-- The node is there and of a known kind, and an expression has three parts, all of them there. -/
structure IsWellFormed (n : Node) : Prop where
  known : n.Known
  parts : n.kind? = some .expression →
    ∃ a b c, n.children = [a, b, c] ∧ a ≠ hole ∧ b ≠ hole ∧ c ≠ hole

theorem ne_hole_of_known {n : Node} (h : n.Known) : n ≠ hole := by
  rintro rfl
  exact h

theorem mem_subtreesAll {m : Node} {ns : List Node} (h : m ∈ subtreesAll ns) :
    ∃ n ∈ ns, m ∈ n.subtrees := by
  induction ns with
  | nil => cases h
  | cons n ns ih =>
    rcases List.mem_append.mp h with h | h
    · exact ⟨n, by simp, h⟩
    · obtain ⟨n', hn', hm⟩ := ih h
      exact ⟨n', by simp [hn'], hm⟩

end Node

/-- **Everything in a grown tree is grown.** -/
theorem Fold.Grown.of_mem_subtrees {n m : Node} (h : Grown n) (hm : m ∈ n.subtrees) : Grown m := by
  induction h with
  | @leaf kind value h =>
    obtain rfl : m = .leaf kind value := List.mem_singleton.mp hm
    exact .leaf value h
  | @window level a b c fits ha hb hc iha ihb ihc =>
    rcases List.mem_cons.mp hm with rfl | hm
    · exact .window fits ha hb hc
    · obtain ⟨part, hpart, below⟩ := Node.mem_subtreesAll hm
      simp only [List.mem_cons, List.not_mem_nil, or_false] at hpart
      rcases hpart with rfl | rfl | rfl
      · exact iha below
      · exact ihb below
      · exact ihc below

theorem Fold.Grown.isWellFormed {n : Node} (h : Grown n) : n.IsWellFormed := by
  refine ⟨h.known, fun hkind => ?_⟩
  cases h with
  | @leaf kind value h =>
    obtain rfl : kind = .expression := Option.some.inj hkind
    cases h
  | @window level a b c fits ha hb hc =>
    exact ⟨a, b, c, rfl, Node.ne_hole_of_known ha.known, Node.ne_hole_of_known hb.known,
      Node.ne_hole_of_known hc.known⟩

/-! ## 2. Sound lines -/

namespace Source

/-- A completed statement does not begin with an identifier. -/
theorem kind?_head_completed {nodes : List Node} {n : Node} {rest : List Node}
    (h : completed nodes = n :: rest) : n.kind? ≠ some .identifier := by
  cases nodes with
  | nil => cases h
  | cons m ms =>
    rw [completed] at h
    split_ifs at h with hm
    · cases h
      intro hkind
      cases hkind
    · cases h
      exact hm

/-- **A numbered line leaves nothing to fold**: neither the number nor a `LET` can be in a
window. -/
theorem foldOnce_numbered {number : String} (h : kindOf true number = .lineNumber)
    (ts : List String) (level : Fold.Level) :
    Fold.foldOnce level (classify true number :: completed (statementNodes ts)) = none := by
  have settled : Fold.Settled (statementNodes ts) :=
    Fold.settled_foldAll (allGrown_map_classify ts).known
  have statement := Fold.foldOnce_eq_none_of_settled settled level
  rw [Fold.foldOnce_cons_inert (inert_lineNumber h), Option.map_eq_none_iff]
  cases hs : statementNodes ts with
  | nil => rfl
  | cons n rest =>
    rw [hs] at statement
    rw [completed]
    split_ifs
    · rw [Fold.foldOnce_cons_inert inert_letWord, statement]
      rfl
    · exact statement

end Source

namespace Interpreter

/-- A line as it stands in a program: its number, which is the one it is stored under, a node that
is no identifier, only well-formed trees, and nothing left to fold. -/
structure IsSoundLine (n : UInt16) (l : Line) : Prop where
  line : l.node.kind? = some .line
  numbered : ∃ number second rest, l.nodes = .leaf .lineNumber number :: second :: rest
    ∧ LineNumber.IsDecimal number n ∧ n.toNat ≤ 65535 ∧ second.kind? ≠ some .identifier
  wellFormed : ∀ m ∈ l.node.subtrees, m.IsWellFormed
  folded : l.node.fold.changed = .ok false

/-- A program line is a number and a completed statement. -/
theorem IsProgramLine.exists_nodes {n : UInt16} {l : Line} (h : IsProgramLine n l) :
    ∃ number ts, kindOf true number = .lineNumber
      ∧ l.nodes = classify true number :: completed (statementNodes ts) := by
  obtain ⟨us, hus⟩ := h.exists_readFrom
  obtain ⟨-, statement, -, hparts⟩ := h
  obtain ⟨text, children, hnodes⟩ := parts_eq_ok_some hparts
  have hline := hus.line
  cases us with
  | nil => exact absurd rfl hus.nonempty
  | cons number ts =>
    by_cases first : kindOf true number = .lineNumber
    · exact ⟨number, ts, first, by rw [← hline, Source.nodes_readLine_numbered first]⟩
    · -- without a number in front no node would be one
      rw [← hline, Source.nodes_readLine_unnumbered first] at hnodes
      have mem : Node.mk .lineNumber text children ∈ statementNodes (number :: ts) := by
        simp [hnodes]
      exact absurd rfl (Source.kind?_ne_lineNumber mem)

/-- **Program lines are sound.** -/
theorem IsProgramLine.isSoundLine {n : UInt16} {l : Line} (h : IsProgramLine n l) :
    IsSoundLine n l := by
  obtain ⟨number, ts, first, hnodes⟩ := h.exists_nodes
  obtain ⟨⟨text, mem⟩, statement, hne, hparts⟩ := h
  obtain ⟨⟨written, hwritten, decimal⟩, hstatement⟩ := parts_eq_ok_some_iff.mp hparts
  have leaf : classify true number = .leaf .lineNumber number := by rw [classify, first]
  have grown := Source.allGrown_of_mem_lines mem
  refine ⟨rfl, ?_, ?_, ?_⟩
  · obtain ⟨second, rest, hsecond⟩ :
        ∃ second rest, completed (statementNodes ts) = second :: rest := by
      refine List.exists_cons_of_ne_nil ?_
      rwa [hstatement, hnodes] at hne
    obtain rfl : number = written := by
      rw [Line.numberText?, hnodes, leaf] at hwritten
      exact Option.some.inj hwritten
    refine ⟨number, second, rest, by rw [hnodes, leaf, hsecond], decimal, ?_,
      Source.kind?_head_completed hsecond⟩
    have := n.toNat_lt
    omega
  · intro m hm
    rcases List.mem_cons.mp hm with rfl | hm
    · refine ⟨trivial, fun hkind => ?_⟩
      cases hkind
    · obtain ⟨node, hnode, below⟩ := Node.mem_subtreesAll hm
      exact ((grown node hnode).of_mem_subtrees below).isWellFormed
  · have settled : Fold.Settled l.nodes := by
      rw [hnodes]
      exact Fold.settled_of_foldOnce_eq_none (Source.foldOnce_numbered first ts)
    exact congrArg Node.Folded.changed (Node.fold_of_settled .line "" grown.known settled)

/-! ## 3. The size of new arrays -/

variable (out : Stream) (i : Interpreter)

theorem arraySize_perform (effect : Effect) :
    (i.perform out effect).interpreter.store.arraySize = i.store.arraySize := by
  cases effect with
  | setScalar name value => rfl
  | setElement name index value =>
    have kept := Store.arraySize_setElement i.store name index value
    unfold perform
    dsimp only
    split
    · rename_i h
      rwa [h] at kept
    · rename_i h
      rwa [h] at kept
  | write text =>
    unfold perform
    dsimp only
    split <;> rfl

theorem arraySize_executeStatement (immediate : Bool) (statement : List Node) :
    (i.executeStatement out immediate statement).interpreter.store.arraySize
      = i.store.arraySize := by
  unfold executeStatement carryOut
  split
  · rfl
  · exact arraySize_perform out i _

theorem arraySize_enterLine (l : Line) :
    (i.enterLine out l).interpreter.store.arraySize = i.store.arraySize := by
  unfold enterLine
  split
  · rfl
  · rfl
  · exact arraySize_executeStatement out i true _
  · rfl
  · rfl

theorem arraySize_each_enterLine (ls : List Line) :
    (i.each (enterLine out) ls).interpreter.store.arraySize = i.store.arraySize :=
  each_induction (enterLine out) i (P := fun j => j.store.arraySize = i.store.arraySize)
    (fun j l _ hj => (arraySize_enterLine out j l).trans hj) rfl

theorem arraySize_run : (i.run out).interpreter.store.arraySize = i.store.arraySize := by
  unfold run
  split
  · rfl
  · rw [(Turn.quiet_eq_iff.mp (quiet_runLines i out _)).1, interpreter_untilFailure]
    exact each_induction (executeStored out) i
      (P := fun j => j.store.arraySize = i.store.arraySize)
      (fun j e _ hj => (arraySize_executeStatement out j false _).trans hj) rfl

theorem arraySize_execute (l : Line) :
    (i.execute out l).interpreter.store.arraySize = i.store.arraySize := by
  unfold execute
  split
  · rfl
  · exact arraySize_executeStatement out i _ _

theorem arraySize_new_pos (arraySize : Int) : 0 < (new arraySize).store.arraySize := by
  show 0 < if 0 < arraySize then arraySize.toNat else Store.defaultArraySize
  split_ifs with h
  · omega
  · decide

/-- **Whatever the history, new arrays have elements.** -/
theorem arraySize_pos_of_reachable {i : Interpreter} (h : Reachable i) :
    0 < i.store.arraySize := by
  induction h with
  | new arraySize => exact arraySize_new_pos arraySize
  | enter out text _ ih => rwa [interpreter_enter, arraySize_each_enterLine]
  | load out source _ ih => rwa [interpreter_load, arraySize_each_enterLine]
  | run out _ ih => rwa [arraySize_run]
  | execute out l _ ih => rwa [arraySize_execute]
  | clear _ _ => exact arraySize_new_pos _

/-! ## 4. Operations -/

/-- The operation is given texts, or a line read from one. -/
def Operation.FromText : Operation → Prop
  | .execute _ l => ∃ text, l ∈ Source.lines text
  | _ => True

/-- The faults that an operation meets, while it reads its text or in what it answers. -/
def Operation.faults (i : Interpreter) : Operation → List Fault
  | .enter out text =>
    Source.faults text ++ (i.enter out text).answer.toList.filterMap Error.fault?
  | .load out source => Source.faults source ++ (i.load out source).answer.filterMap Error.fault?
  | .run out => (i.run out).answer.toList.filterMap Error.fault?
  | .execute out l => (i.execute out l).answer.toList.filterMap Error.fault?
  | .list out => (i.list out).answer.toList.filterMap Error.fault?
  | .clear => []

theorem fault?_list (stored : FromSource i.program) :
    ∀ e ∈ (i.list out).answer, e.fault? = none := by
  intro e he
  obtain ⟨texts, hlines, -⟩ := exists_lineTexts_of_text fun e he => (stored e he).exists_text
  unfold list at he
  rw [hlines] at he
  split at he
  · rename_i h
    cases h
  · cases he
  · split at he
    · cases he
      rfl
    · cases he

theorem filterMap_fault?_eq_nil {answer : Option Error} (h : ∀ e ∈ answer, e.fault? = none) :
    answer.toList.filterMap Error.fault? = [] :=
  List.filterMap_eq_nil_iff.mpr fun e he => h e (Option.mem_toList.mp he)

/-- **No operation on a text meets a fault.** -/
theorem faults_of_reachable {i : Interpreter} (h : Reachable i) {o : Operation}
    (ho : o.FromText) : o.faults i = [] := by
  have stored := fromSource_of_reachable h
  cases o with
  | enter out text =>
    rw [Operation.faults, Source.faults_eq_nil, filterMap_fault?_eq_nil (fault?_enter out i text)]
    rfl
  | load out source =>
    rw [Operation.faults, Source.faults_eq_nil,
      List.filterMap_eq_nil_iff.mpr (fault?_load out i source)]
    rfl
  | run out => exact filterMap_fault?_eq_nil (fault?_run out i stored)
  | execute out l =>
    obtain ⟨text, hl⟩ := ho
    exact filterMap_fault?_eq_nil (fault?_execute out i (Source.allGrown_of_mem_lines hl))
  | list out => exact filterMap_fault?_eq_nil (fault?_list out i stored)
  | clear => rfl

/-- **The invariant of a program, and what follows from it.**  After any history, for any size of
arrays that was asked for:

* every stored line is sound, so there is a number to drop and a statement behind it;
* new arrays have elements;
* no operation that is given a text, or a line read from one, meets a fault;
* and in every store an element is set inside its array. -/
theorem sound_of_history (arraySize : Int) (history : List Operation) :
    let i := (new arraySize).after history
    (∀ n l, i.program.find? n = some l → IsSoundLine n l)
      ∧ 0 < i.store.arraySize
      ∧ (∀ o : Operation, o.FromText → o.faults i = [])
      ∧ ∀ (s : Store) (name : String) (index value : Float),
          s.setElement? name index value = some (s.setElement name index value) := by
  intro i
  have reached : Reachable i := (Reachable.new arraySize).after history
  refine ⟨fun n l found => ?_, arraySize_pos_of_reachable reached,
    fun o ho => faults_of_reachable reached ho, Store.setElement?_eq_some⟩
  exact (fromSource_of_reachable reached (n, l) (SortedMap.mem_entries_iff.mpr found)).isSoundLine

/-- A stored line that needs its `LET` and has parentheses to fold, and a line with an unclosed
string to execute. -/
theorem sound_of_history_stored_line :
    let i := (new (-3)).after [.enter {} ("7" ++ " " ++ "X=(1+2)")]
    IsSoundLine 7 (storedLine "7" "X=(1+2)")
      ∧ Operation.faults i (.execute {} ⟨statementNodes (Token.tokens "PRINT \"A")⟩) = [] := by
  have hn : LineNumber.IsDecimal "7" 7 := ⟨by decide, by simp, by decide⟩
  have htext : IsStatementText "X=(1+2)" := ⟨by decide, by decide, by decide⟩
  obtain ⟨sound, -, faultless, -⟩ :=
    sound_of_history (-3) [.enter {} ("7" ++ " " ++ "X=(1+2)")]
  refine ⟨sound 7 _ ?_, faultless _ ⟨"PRINT \"A", ?_⟩⟩
  · show (enter {} (new (-3)) ("7" ++ " " ++ "X=(1+2)")).interpreter.program.find? 7 = _
    rw [enter_stored {} (new (-3)) hn htext]
    rfl
  · rw [IsStatementText.lines_immediate ⟨by decide, by decide, by decide⟩]
    exact List.mem_singleton_self _

end Interpreter

end LineBasic
