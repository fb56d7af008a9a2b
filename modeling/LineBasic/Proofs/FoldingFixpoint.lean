/-
# Where folding ends

Folding goes through rounds of four passes, and a pass may make windows for one that came before it.
It ends all the same, since every fold takes two nodes, and **what it ends in is a fixpoint**
(`isFixpointOf_fold`): no three adjacent nodes can be joined, at whatever level, and folding once
more does nothing.

A line of a program may get its `LET` after it was folded.  **It is a fixpoint as well**, and not by
chance: a `LET` can be in no window, so the line is what folding ends in if the `LET` stands among
the tokens from the start (`node_readLine`).
-/
import LineBasic.Proofs.ParsedTrees

namespace LineBasic

open Expression (IsWindow role)
open Fold (AllKnown Settled foldAll)
open Source (classify kindOf lacksLet leaves letWord program readLine readTokens segments
  statementNodes withLet)

/-! ## 1. Fixpoints -/

/-- No three adjacent nodes are an operator between two operands, or an operand in parentheses. -/
def Fold.NoWindow (nodes : List Node) : Prop :=
  ∀ before a b c after, nodes = before ++ a :: b :: c :: after →
    ¬ IsWindow (role a) (role b) (role c)

theorem Fold.noWindow_of_settled {nodes : List Node} (h : Settled nodes) : NoWindow nodes := by
  rintro before a b c after rfl window
  obtain ⟨level, fits⟩ := Expression.exists_fits_of_isWindow window
  exact h _ (.mk before after fits)

namespace Node

/-- The second node is a fixpoint that the first can be folded to. -/
structure IsFixpointOf (n m : Node) : Prop where
  kind : m.kind? = n.kind?
  value : m.value = n.value
  /-- Nodes are lost in pairs. -/
  even : ∃ folds, m.children.length + 2 * folds = n.children.length
  leaves : leavesAll m.children = leavesAll n.children
  noWindow : Fold.NoWindow m.children
  /-- Folding once more changes nothing, and says so. -/
  again : m.fold = ⟨m, .ok false, []⟩

variable (kind : Kind) (value : String) {children : List Node}

/-- Every fold that is reported took two nodes. -/
theorem length_children_fold (known : AllKnown children) :
    (mk kind value children).fold.node.children.length
        + 2 * (mk kind value children).fold.notices.length = children.length := by
  rw [fold_of_known kind value known, Fold.Result.notices, List.length_map]
  exact Fold.length_foldAll children

/-- Folding reports whether there are fewer nodes than before. -/
theorem changed_fold (known : AllKnown children) :
    (mk kind value children).fold.changed
      = .ok (decide ((mk kind value children).fold.node.children.length < children.length)) := by
  have lengths := Fold.length_foldAll children
  rw [fold_of_known kind value known]
  simp only [Node.children, Except.ok.injEq]
  cases folded : (foldAll children).windows with
  | nil =>
    rw [folded, List.length_nil] at lengths
    simp [← lengths]
  | cons w windows =>
    rw [folded, List.length_cons] at lengths
    have fewer : (foldAll children).nodes.length < children.length := by omega
    simp [fewer]

/-- **Folding ends in a fixpoint.** -/
theorem isFixpointOf_fold (known : AllKnown children) :
    IsFixpointOf (mk kind value children) (mk kind value children).fold.node where
  kind := rfl
  value := rfl
  even := ⟨_, length_children_fold kind value known⟩
  leaves := Fold.leavesAll_foldAll known
  noWindow := Fold.noWindow_of_settled (Fold.settled_foldAll known)
  again := fold_of_settled kind value (Fold.allKnown_foldAll known) (Fold.settled_foldAll known)

end Node

/-! ## 2. Lines -/

namespace Source

/-- The tokens of a line, with the `LET` that it left out. -/
def spelledOut (ts : List String) : List String :=
  if lacksLet (foldAll (leaves ts)).nodes then ts.take 1 ++ "LET" :: ts.drop 1 else ts

/-- A folded line that begins with a number has that number as its first token. -/
theorem exists_number_of_beginsAssignment {ts : List String}
    (h : BeginsAssignment (foldAll (leaves ts)).nodes) :
    ∃ number us, ts = number :: us ∧ kindOf true number = .lineNumber := by
  obtain ⟨n, word, rest, folded, hkind, -⟩ := h
  cases ts with
  | nil =>
    have nothing := Fold.leavesAll_foldAll (allGrown_leaves []).known
    rw [folded] at nothing
    have grown := Fold.allGrown_foldAll (allGrown_leaves []) n (by simp [folded])
    rw [Node.leavesAll_cons, leaves_of_lineNumber grown hkind] at nothing
    cases nothing
  | cons t us =>
    refine ⟨t, us, rfl, ?_⟩
    by_contra other
    rw [leaves_unnumbered other] at folded
    have mem : n ∈ statementNodes (t :: us) := by
      rw [statementNodes, folded]
      exact List.mem_cons_self
    exact kind?_ne_lineNumber mem hkind

/-- **A `LET` may as well be put in before folding.** -/
theorem node_readLine (ts : List String) :
    (readLine ts).value.node = (Node.line (leaves (spelledOut ts))).fold.node := by
  have folded : (readLine ts).value.nodes = (foldAll (leaves (spelledOut ts))).nodes := by
    rw [nodes_readLine, spelledOut]
    split_ifs with lacks
    · have begins := (lacksLet_iff _).mp lacks
      obtain ⟨number, us, rfl, first⟩ := exists_number_of_beginsAssignment begins
      -- neither the number nor the `LET` can be in a window
      have inside : statementNodes ("LET" :: us) = letWord :: statementNodes us :=
        Fold.nodes_foldAll_cons_inert inert_letWord (allGrown_map_classify us).known
      rw [withLet_of_beginsAssignment begins, nodes_foldAll_leaves_numbered first]
      show _ = (foldAll (leaves (number :: "LET" :: us))).nodes
      rw [nodes_foldAll_leaves_numbered first, inside]
      rfl
    · exact withLet_of_not_beginsAssignment (mt (lacksLet_iff _).mpr lacks)
  exact congrArg Node.line folded

end Source

/-! ## 3. Nodes and lines -/

/-- **Folding ends in a fixpoint.**  A node with known children is folded without a fault, each fold
takes two children, and it is reported whether there are fewer of them.  What is left is a fixpoint.
And so is every line of a program: it is what its tokens fold to, with a `LET` among them if it got
one. -/
theorem Node.fold_fixpoint :
    (∀ (kind : Kind) (value : String) (children : List Node), AllKnown children →
      let n := mk kind value children
      n.fold.node.children.length + 2 * n.fold.notices.length = n.children.length
        ∧ n.fold.changed = .ok (decide (n.fold.node.children.length < n.children.length))
        ∧ IsFixpointOf n n.fold.node)
    ∧ ∀ (tokens : List String) (line : Node), line ∈ (program (readTokens tokens).value).children →
        ∃ ts ∈ segments tokens, line = (Node.line (Source.leaves (Source.spelledOut ts))).fold.node
          ∧ IsFixpointOf (.line (Source.leaves (Source.spelledOut ts))) line := by
  constructor
  · intro kind value children known n
    exact ⟨length_children_fold kind value known, changed_fold kind value known,
      isFixpointOf_fold kind value known⟩
  · intro tokens line hline
    obtain ⟨l, hl, rfl⟩ := List.mem_map.mp hline
    rw [readTokens, List.map_map] at hl
    obtain ⟨ts, hts, rfl⟩ := List.mem_map.mp hl
    have folded := Source.node_readLine ts
    refine ⟨ts, hts, folded, ?_⟩
    have fixpoint :=
      isFixpointOf_fold .line "" (Source.allGrown_leaves (Source.spelledOut ts)).known
    exact folded ▸ fixpoint

/-- Parentheses with an operator behind them, which stays alone, and a line that gets its `LET`. -/
theorem Node.fold_fixpoint_implicit_let :
    let n : Node :=
      .line [.leaf .symbol "(", .leaf .number "1", .leaf .symbol ")", .leaf .symbol "*"]
    let line : Node := .line [.leaf .lineNumber "10", letWord, .leaf .identifier "A",
      .leaf .symbol "=", .expression (.leaf .number "1") (.leaf .symbol "+") (.leaf .number "2")]
    n.fold.changed = .ok true ∧ IsFixpointOf n n.fold.node
      ∧ line ∈ (program (readTokens ["10", "A", "=", "1", "+", "2"]).value).children
      ∧ line.fold = ⟨line, .ok false, []⟩ := by
  intro n line
  have known : AllKnown n.children := by
    intro m hm
    simp only [n, Node.line, children, List.mem_cons, List.not_mem_nil, or_false] at hm
    rcases hm with rfl | rfl | rfl | rfl <;> trivial
  have short : n.fold.node.children.length = 2 := by cbv
  have mem : line ∈ (program (readTokens ["10", "A", "=", "1", "+", "2"]).value).children := by
    have read : (program (readTokens ["10", "A", "=", "1", "+", "2"]).value).children = [line] := by
      cbv
    simp [read]
  obtain ⟨-, changed, fixpoint⟩ := fold_fixpoint.1 .line "" n.children known
  obtain ⟨ts, -, -, folded⟩ := fold_fixpoint.2 _ line mem
  refine ⟨changed.trans ?_, fixpoint, mem, folded.again⟩
  show Except.ok (decide (n.fold.node.children.length < 4)) = _
  rw [short]
  rfl

end LineBasic
