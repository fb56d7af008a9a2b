/-
# Expressions as trees

An expression that is read with an operand in it is an ordered tree over its tokens
(`exists_ordered_of_readExpression`), and a text with the tokens of an ordered tree is read as that
tree (`readExpression_of_ordered`).

In a tree, parentheses have the value of what they hold, and an operator takes the value of its left
operand, then that of its right operand.  Operators themselves never fail.  So **whether an
expression has a value, and if not, why, does not depend on how it is grouped** (`failure?_node`):
the failure is that of the first operand with one, and the operands stand in the same order in every
grouping.
-/
import LineBasic.Evaluation
import LineBasic.Proofs.FoldingOrder
import LineBasic.Proofs.SourceLines

namespace LineBasic.Expression

open Source (classify readExpression)

/-! ## 1. Reading -/

namespace Tree

theorem role_of_mem_nodes {t : Tree} {n : Node} (h : n ∈ t.nodes) : role n ≠ .other := by
  induction t with
  | atom x =>
    rw [List.mem_singleton.mp h, role_of_isOperand x.isOperand]
    decide
  | operation left op right ihl ihr =>
    rcases List.mem_append.mp h with h | h
    · exact ihl h
    · rcases List.mem_cons.mp h with rfl | h
      · rw [role_of_isSymbolAmong op.isOperator]
        decide
      · exact ihr h
  | group inner ih =>
    rcases List.mem_cons.mp h with rfl | h
    · rw [opening, role_opening]
      decide
    · rcases List.mem_append.mp h with h | h
      · exact ih h
      · rw [List.mem_singleton.mp h, closing, role_closing]
        decide

/-- A text with the tokens of an ordered tree is read as that tree. -/
theorem readExpression_of_ordered {t : Tree} (h : t.Ordered) {text : String}
    (hnodes : t.nodes = (Token.tokens text).map (classify false)) :
    (readExpression text).value = ⟨t.node, true⟩ := by
  rw [Source.readExpression_complete_iff]
  constructor
  · intro newline
    have mem : classify false Token.newline ∈ t.nodes := by
      rw [hnodes]
      exact List.mem_map_of_mem newline
    exact role_of_mem_nodes mem (by decide)
  · have folded := nodes_foldAll_of_ordered h
    rwa [hnodes] at folded

theorem exists_of_derivable {u : List Node} (h : Derivable u) : ∃ t : Tree, t.nodes = u := by
  induction h with
  | @value kind text h =>
    exact ⟨atom ⟨.leaf kind text, h.isOperand text⟩, rfl⟩
  | @operation u v op hop _ _ ihu ihv =>
    obtain ⟨l, rfl⟩ := ihu
    obtain ⟨r, rfl⟩ := ihv
    have operator : (Node.leaf .symbol op).isSymbolAmong operators := by
      simpa [Node.isSymbolAmong, Node.leaf] using hop
    exact ⟨operation l ⟨.leaf .symbol op, operator⟩ r, rfl⟩
  | parentheses _ ih =>
    obtain ⟨t, rfl⟩ := ih
    exact ⟨group t, rfl⟩

/-- An expression with an operand in it is read as an ordered tree over its tokens. -/
theorem exists_ordered_of_readExpression {text : String} {node : Node}
    (h : (readExpression text).value = ⟨node, true⟩) {x : String} (hx : x ∈ Token.tokens text)
    (operand : (classify false x).isOperand) :
    ∃ t : Tree, t.Ordered ∧ t.node = node ∧ t.nodes = (Token.tokens text).map (classify false) := by
  have single := (Source.readExpression_complete_iff.mp h).2
  have some_tree : ∃ t : Tree, t.nodes = (Token.tokens text).map (classify false) := by
    rcases derivable_of_foldAll (Source.allGrown_map_classify _) (Source.leavesAll_map_classify _)
      single with one | derivable
    · -- the operand is all there is
      obtain ⟨t, ht⟩ := List.length_eq_one_iff.mp ((List.length_map _).symm.trans one)
      rw [ht, List.mem_singleton] at hx
      rw [ht, ← hx]
      exact ⟨atom ⟨classify false x, operand⟩, rfl⟩
    · exact exists_of_derivable derivable
  obtain ⟨t, ht⟩ := some_tree
  obtain ⟨u, ordered, nodes_eq⟩ := exists_ordered t
  have folded := nodes_foldAll_of_ordered ordered
  rw [nodes_eq, ht] at folded
  exact ⟨u, ordered, List.singleton_inj.mp (folded.symm.trans single), nodes_eq.trans ht⟩

end Tree

/-! ## 2. Values -/

/-- Why evaluating a node fails, if it does. -/
def failure? (s : Store) (n : Node) : Option EvalError :=
  match (evaluate s n).result with
  | .error e => some e
  | .ok _ => none

/-- The text of an operator. -/
def Operator.symbol (op : Operator) : String := op.node.value

theorem Operator.symbol_mem (op : Operator) : op.symbol ∈ operators := by
  obtain ⟨text, children, hnode, htext⟩ := op.exists_value
  rwa [symbol, hnode]

/-- Every operator stands for an operation. -/
theorem exists_operation {symbol : String} (h : symbol ∈ operators) :
    ∃ f, operation? symbol = some f := by
  simp only [operators, List.mem_cons, List.not_mem_nil, or_false] at h
  rcases h with rfl | rfl | rfl | rfl | rfl
  all_goals exact ⟨_, rfl⟩

namespace Tree

variable (s : Store)

theorem evaluate_group (inner : Tree) : evaluate s (group inner).node = evaluate s inner.node := by
  simp [node, Node.expression, evaluate, evaluateAll, nodeValue, combine, opening, Node.leaf,
    Node.isSymbol]

theorem evaluate_operation (left : Tree) (op : Operator) (right : Tree) :
    evaluate s (operation left op right).node = (do
      let a ← evaluate s left.node
      let c ← evaluate s right.node
      applyOperator op.symbol a c) := by
  have unopened := isSymbol_of_isOperand left.isOperand_node "("
  obtain ⟨text, children, hnode, -⟩ := op.exists_value
  simp [node, Node.expression, evaluate, evaluateAll, nodeValue, combine, unopened, hnode,
    Operator.symbol, Node.value]

/-- **The failure of an expression is that of its first operand with one.** -/
theorem failure?_node (t : Tree) :
    failure? s t.node = (t.nodes.filter Node.isOperand).findSome? (failure? s) := by
  induction t with
  | atom x => simp [node, nodes, x.isOperand]
  | group inner ih =>
    have symbols : opening.isOperand = false ∧ closing.isOperand = false := ⟨rfl, rfl⟩
    rw [failure?, evaluate_group, ← failure?, ih]
    simp [nodes, symbols]
  | operation left op right ihl ihr =>
    obtain ⟨f, hf⟩ := exists_operation op.symbol_mem
    have operands : (operation left op right).nodes.filter Node.isOperand
        = left.nodes.filter Node.isOperand ++ right.nodes.filter Node.isOperand := by
      simp [nodes, op.isOperand_node]
    rw [operands, List.findSome?_append, ← ihl, ← ihr]
    simp only [failure?, evaluate_operation, Traced.result_bind]
    rcases (evaluate s left.node).result with e | a
    · rfl
    · rcases (evaluate s right.node).result with e | c
      · rfl
      · simp [Except.bind, applyOperator, hf]

end Tree

end LineBasic.Expression
