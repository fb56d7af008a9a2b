/-
# How chains of operators are grouped

A chain is operands with operators between them and no parentheses.  Its grouping is that of the
grammar

    power   ::= sum     | power ^ sum
    sum     ::= product | sum + product | sum - product
    product ::= value   | product * value | product / value

in which `*` and `/` bind tightest, then `+` and `-`, then `^`, and all of them associate to the
left.  The three rules are one rule, `IsRun`, with other operators and other operands each time.

* **A grouping of the grammar is ordered** (`IsRun.exists_tree`).  In a chain every neighbour of an
  operator is there from the start, so an operator is folded in the first pass of its level; the
  operators of a run are all folded in one pass, and its operands in the passes before.
* **Every chain has a grouping** (`exists_isPower`).  One more operator with its operand goes to the
  run of its own level, at the end of the chain (`IsRun.exists_append`).

Folding gives the ordered tree, so it gives the one tree of the grammar (`fold_chain`).
-/
import LineBasic.Proofs.FoldingOrder

namespace LineBasic.Expression

open Fold (Level fault_foldAll foldAll length_foldAll)

/-! ## 1. The grammar -/

/-- Operands with operators of one level between them, grouped to the left.  The relation is between
the nodes as they stand in the list and the tree over them. -/
inductive IsRun (symbols : List String) (IsPart : List Node → Node → Prop) :
    List Node → Node → Prop
  | part {u : List Node} {t : Node} (h : IsPart u t) : IsRun symbols IsPart u t
  | operation {u v : List Node} {left op right : Node} (hleft : IsRun symbols IsPart u left)
      (hop : op.isSymbolAmong symbols) (hright : IsPart v right) :
      IsRun symbols IsPart (u ++ op :: v) (.expression left op right)

/-- A value stands for itself. -/
def IsValue (u : List Node) (t : Node) : Prop := t.isOperand ∧ u = [t]

/-- Values multiplied and divided. -/
def IsProduct : List Node → Node → Prop := IsRun ["*", "/"] IsValue

/-- Products added and subtracted. -/
def IsSum : List Node → Node → Prop := IsRun ["+", "-"] IsProduct

/-- Sums raised to a power. -/
def IsPower : List Node → Node → Prop := IsRun ["^"] IsSum

/-- The nodes of a chain. -/
def chain (first : Operand) (steps : List (Operator × Operand)) : List Node :=
  first.node :: steps.flatMap fun step => [step.1.node, step.2.node]

theorem length_chain (first : Operand) (steps : List (Operator × Operand)) :
    (chain first steps).length = 1 + 2 * steps.length := by
  induction steps with
  | nil => rfl
  | cons step steps ih =>
    simp only [chain, List.flatMap_cons, List.length_cons, List.length_append] at ih ⊢
    simp only [List.length_nil]
    omega

/-! ## 2. A grouping of the grammar is ordered -/

/-- The tree of a chain, complete after `k` passes. -/
structure Tree.IsFlat (t : Tree) (k : Nat) : Prop where
  ordered : t.Ordered
  firstPass_eq : t.firstPass = 0
  lastPass_eq : t.lastPass = 0
  pass_le : t.pass ≤ k

/-- If the parts of a run are complete before the pass of its operators, the run is complete after
it. -/
theorem IsRun.exists_tree (level : Level) {IsPart : List Node → Node → Prop}
    (parts : ∀ u t, IsPart u t →
      ∃ tree : Tree, tree.nodes = u ∧ tree.node = t ∧ tree.IsFlat (firstPassOf level - 1))
    {u : List Node} {t : Node} (h : IsRun level.operators IsPart u t) :
    ∃ tree : Tree, tree.nodes = u ∧ tree.node = t ∧ tree.IsFlat (firstPassOf level) := by
  induction h with
  | @part u t h =>
    obtain ⟨tree, rfl, rfl, flat⟩ := parts u t h
    exact ⟨tree, rfl, rfl, { flat with pass_le := Nat.le_trans flat.pass_le (Nat.sub_le _ _) }⟩
  | @operation u v left op right _ hop hright ih =>
    obtain ⟨l, rfl, rfl, hl⟩ := ih
    obtain ⟨r, rfl, rfl, hr⟩ := parts v right hright
    let operator : Operator := ⟨op, isSymbolAmong_operators hop⟩
    have operator_level : operator.level = level := Operator.level_eq_iff.mpr hop
    have pass_eq : (Tree.operation l operator r).pass = firstPassOf level := by
      rw [Tree.pass_operation, hl.lastPass_eq, hr.firstPass_eq, operator_level, Nat.max_self,
        Nat.zero_add]
    have positive := firstPassOf_pos level
    have left_le := hl.pass_le
    have right_le := hr.pass_le
    refine ⟨.operation l operator r, rfl, rfl, ?_⟩
    exact ⟨⟨hl.ordered, hr.ordered, by omega, by omega⟩, hl.firstPass_eq, hr.lastPass_eq, by omega⟩

theorem exists_tree_of_isPower {u : List Node} {t : Node} (h : IsPower u t) :
    ∃ tree : Tree, tree.nodes = u ∧ tree.node = t ∧ tree.IsFlat 3 := by
  have values (u : List Node) (t : Node) (h : IsValue u t) :
      ∃ tree : Tree, tree.nodes = u ∧ tree.node = t ∧ tree.IsFlat 0 := by
    obtain ⟨operand, rfl⟩ := h
    exact ⟨.atom ⟨t, operand⟩, rfl, rfl, ⟨trivial, rfl, rfl, Nat.le_refl 0⟩⟩
  have products (u : List Node) (t : Node) (h : IsProduct u t) :=
    IsRun.exists_tree .product values h
  have sums (u : List Node) (t : Node) (h : IsSum u t) :=
    IsRun.exists_tree .sum products h
  exact IsRun.exists_tree .power sums h

/-- **Folding gives the grouping of the grammar.** -/
theorem foldAll_of_isPower {u : List Node} {t : Node} (h : IsPower u t) :
    (foldAll u).fault = none ∧ (foldAll u).nodes = [t] := by
  obtain ⟨tree, rfl, rfl, flat⟩ := exists_tree_of_isPower h
  exact ⟨fault_foldAll tree.allKnown_nodes, Tree.nodes_foldAll_of_ordered flat.ordered⟩

/-! ## 3. Every chain has a grouping -/

/-- What can follow a part can follow a run of such parts. -/
theorem IsRun.exists_append {symbols : List String} {IsPart : List Node → Node → Prop}
    {v : List Node} (parts : ∀ u t, IsPart u t → ∃ t', IsPart (u ++ v) t') {u : List Node}
    {t : Node}
    (h : IsRun symbols IsPart u t) : ∃ t', IsRun symbols IsPart (u ++ v) t' := by
  cases h with
  | part h =>
    obtain ⟨t', h'⟩ := parts _ _ h
    exact ⟨t', .part h'⟩
  | @operation u w left op right hleft hop hright =>
    obtain ⟨right', hright'⟩ := parts _ _ hright
    refine ⟨.expression left op right', ?_⟩
    rw [List.append_assoc, List.cons_append]
    exact .operation hleft hop hright'

/-- One more operator and operand. -/
theorem exists_isPower_append (op : Operator) (x : Operand) {u : List Node} {t : Node}
    (h : IsPower u t) : ∃ t', IsPower (u ++ [op.node, x.node]) t' := by
  have value : IsValue [x.node] x.node := ⟨x.isOperand, rfl⟩
  have product : IsProduct [x.node] x.node := .part value
  have sum : IsSum [x.node] x.node := .part product
  have own : op.node.isSymbolAmong op.level.operators := Operator.level_eq_iff.mp rfl
  rcases hlevel : op.level with _ | _ | _ | _
  all_goals rw [hlevel] at own
  · exact h.exists_append fun _ _ h => h.exists_append fun _ _ h => ⟨_, .operation h own value⟩
  · exact h.exists_append fun _ _ h => ⟨_, .operation h own product⟩
  · exact ⟨_, .operation h own sum⟩
  · exact absurd hlevel op.level_ne_parenthesis

/-- Any number of them. -/
theorem exists_isPower_append_steps (steps : List (Operator × Operand)) {u : List Node} {t : Node}
    (h : IsPower u t) :
    ∃ t', IsPower (u ++ steps.flatMap fun step => [step.1.node, step.2.node]) t' := by
  induction steps generalizing u t with
  | nil => exact ⟨t, by simpa using h⟩
  | cons step steps ih =>
    obtain ⟨t', h'⟩ := exists_isPower_append step.1 step.2 h
    obtain ⟨t'', h''⟩ := ih h'
    exact ⟨t'', by simpa using h''⟩

theorem exists_isPower (first : Operand) (steps : List (Operator × Operand)) :
    ∃ t, IsPower (chain first steps) t := by
  have start : IsPower [first.node] first.node := .part (.part (.part ⟨first.isOperand, rfl⟩))
  exact exists_isPower_append_steps steps start

/-! ## 4. Folding a chain -/

/-- **Chains are grouped as the grammar says.**  Folding a node whose children are a chain leaves
one child, the only tree that the grammar has for the chain; and it reports a change unless the
chain is a single value. -/
theorem fold_chain (kind : Kind) (value : String) (first : Operand)
    (steps : List (Operator × Operand)) :
    let folded := (Node.mk kind value (chain first steps)).fold
    ∃ tree, folded.node = .mk kind value [tree] ∧ folded.changed = .ok (!steps.isEmpty)
      ∧ ∀ t, IsPower (chain first steps) t ↔ t = tree := by
  intro folded
  obtain ⟨tree, h⟩ := exists_isPower first steps
  obtain ⟨fault, single⟩ := foldAll_of_isPower h
  refine ⟨tree, ?_, ?_, ?_⟩
  · exact congrArg (Node.mk kind value) single
  · have length := length_foldAll (chain first steps)
    have windows : (foldAll (chain first steps)).windows.length = steps.length := by
      rw [single, length_chain] at length
      simp only [List.length_singleton] at length
      omega
    have nothing : (foldAll (chain first steps)).windows.isEmpty = steps.isEmpty := by
      rw [Bool.eq_iff_iff, List.isEmpty_iff_length_eq_zero, List.isEmpty_iff_length_eq_zero,
        windows]
    simp [folded, Node.fold, fault, nothing]
  · intro t
    constructor
    · intro ht
      have same := (foldAll_of_isPower ht).2
      rw [single] at same
      exact (List.singleton_inj.mp same).symm
    · rintro rfl
      exact h

end LineBasic.Expression
