/-
# Parentheses around an operand

Parentheses around a single operand should make no difference, and often do: `2 * 3 + 4` is 10, but
`( 2 ) * 3 + 4` is 14.  The parentheses are folded only at the end of the first round.  Until then
the product waits, while `3 + 4`, both of whose operands are there, is folded.

What holds is this (`parenthesized_operand`).

* The text with the parentheses is an expression again.
* It fails in the same stores and in the same way, since the operands are the same.
* **Its tree is the old tree with the operand in parentheses iff that tree is ordered**, that is,
  iff the operators that the parentheses delay do not overtake, nor are overtaken by, the ones
  around them.  And then the value is the same in every store.

An unterminated string with a letter in it counts as an operand too, but no parenthesis can follow
it.
-/
import LineBasic.Proofs.ExpressionTrees
import LineBasic.Proofs.TokenLanguage

namespace LineBasic.Expression

open Source (classify readExpression)

/-! ## 1. Putting an operand in parentheses -/

/-- An operand in a list is on one side of a node that is none. -/
theorem append_cons_eq {u v before after : List Node} {n x : Node} (hn : n.isOperand = false)
    (hx : x.isOperand) (h : u ++ n :: v = before ++ x :: after) :
    (∃ between, u = before ++ x :: between ∧ after = between ++ n :: v) ∨
      ∃ between, before = u ++ n :: between ∧ v = between ++ x :: after := by
  have different : n ≠ x := by
    rintro rfl
    rw [hn] at hx
    cases hx
  rcases List.append_eq_append_iff.mp h with ⟨rest, hbefore, hrest⟩ | ⟨rest, hu, hrest⟩
  · cases rest with
    | nil => exact absurd (List.cons.inj hrest).1 different
    | cons m rest =>
      obtain ⟨rfl, hv⟩ := List.cons.inj hrest
      exact .inr ⟨rest, hbefore, hv⟩
  · cases rest with
    | nil => exact absurd (List.cons.inj hrest).1.symm different
    | cons m rest =>
      obtain ⟨rfl, hafter⟩ := List.cons.inj hrest
      exact .inl ⟨rest, hu, hafter⟩

namespace Tree

/-- The tree with parentheses around the operand at a place, counted in the nodes of the tree. -/
def parenthesize (place : Nat) : Tree → Tree
  | atom x => group (atom x)
  | operation left op right =>
    if place < left.nodes.length then operation (left.parenthesize place) op right
    else operation left op (right.parenthesize (place - (left.nodes.length + 1)))
  | group inner => group (inner.parenthesize (place - 1))

theorem nodes_parenthesize {t : Tree} {x : Node} (hx : x.isOperand) {before after : List Node}
    (h : t.nodes = before ++ x :: after) :
    (t.parenthesize before.length).nodes = before ++ opening :: x :: closing :: after := by
  induction t generalizing before after with
  | atom y =>
    cases before with
    | nil =>
      obtain ⟨rfl, rfl⟩ := List.cons.inj h
      rfl
    | cons b before => simp [nodes] at h
  | operation left op right ihl ihr =>
    rcases append_cons_eq op.isOperand_node hx h with ⟨between, hleft, rfl⟩ | ⟨between, rfl, hright⟩
    · have inLeft : before.length < left.nodes.length := by simp [hleft]
      rw [parenthesize, if_pos inLeft, nodes, ihl hleft]
      simp
    · have place : (left.nodes ++ op.node :: between).length - (left.nodes.length + 1)
          = between.length := by
        simp only [List.length_append, List.length_cons]
        omega
      rw [parenthesize, if_neg (by simp), place, nodes, ihr hright]
      simp
  | group inner ih =>
    rcases append_cons_eq (u := []) (n := opening) rfl hx h with
      ⟨between, hnil, -⟩ | ⟨before, rfl, hrest⟩
    · simp at hnil
    rcases append_cons_eq (n := closing) rfl hx hrest
      with ⟨between, hinner, rfl⟩ | ⟨between, -, hnil⟩
    · rw [parenthesize, nodes]
      simp [ih hinner]
    · simp at hnil

/-- Parentheses around an operand do not change the value of a tree. -/
theorem evaluate_parenthesize (s : Store) (t : Tree) (place : Nat) :
    evaluate s (t.parenthesize place).node = evaluate s t.node := by
  induction t generalizing place with
  | atom x => exact evaluate_group s (atom x)
  | operation left op right ihl ihr =>
    rw [parenthesize]
    split_ifs
    · rw [evaluate_operation, evaluate_operation, ihl]
    · rw [evaluate_operation, evaluate_operation, ihr]
  | group inner ih => rw [parenthesize, evaluate_group, evaluate_group, ih]

end Tree

/-! ## 2. The text with the parentheses -/

/-- The tokens with parentheses around one of them can be written down. -/
theorem isTokenList_parenthesized {before after : List String} {x : String}
    (h : Token.IsTokenList (before ++ x :: after)) (closed : ¬ Token.IsOpenLiteral x.toList) :
    Token.IsTokenList (before ++ "(" :: x :: ")" :: after) := by
  induction before with
  | nil =>
    have parenthesis (c : Char) (hc : Token.isSymbolChar c) : Token.IsToken [c] := .symbol hc
    cases h with
    | unclosed unclosed => exact absurd unclosed closed
    | cons hx hafter =>
      exact .cons (parenthesis '(' rfl) (.cons hx (.cons (parenthesis ')' rfl) hafter))
  | cons t before ih =>
    rw [List.cons_append] at h
    generalize htail : before ++ x :: after = tail at h
    cases h with
    | unclosed => simp at htail
    | cons ht hts => exact .cons ht (ih (htail ▸ hts))

theorem expression_notMem_map_classify (tokens : List String) (a b c : Node) :
    .expression a b c ∉ tokens.map (classify false) := by
  intro h
  obtain ⟨t, -, same⟩ := List.mem_map.mp h
  simp [classify, Node.leaf, Node.expression] at same

/-- **Parentheses around an operand.**  Let a text be read as an expression, and let one of its
tokens be an operand, though no unterminated string.  The tokens with parentheses around that one
can be written down.  However they are written, they are read as an expression again, which fails in
the same stores and in the same way; its tree is the old one with the operand in parentheses iff
that tree is ordered, and then it has the same value in every store. -/
theorem parenthesized_operand {text : String} {tree : Node} {before after : List String}
    {x : String}
    (complete : (readExpression text).value = ⟨tree, true⟩)
    (place : Token.tokens text = before ++ x :: after) (operand : (classify false x).isOperand)
    (closed : ¬ Token.IsOpenLiteral x.toList) :
    let tokens := before ++ "(" :: x :: ")" :: after
    Token.tokens (" ".intercalate tokens) = tokens ∧
    ∃ t : Tree, t.node = tree ∧ t.nodes = (Token.tokens text).map (classify false) ∧
      ∀ text', Token.tokens text' = tokens →
        ∃ tree', (readExpression text').value = ⟨tree', true⟩
          ∧ (∀ s, failure? s tree' = failure? s tree)
          ∧ (tree' = (t.parenthesize before.length).node ↔ (t.parenthesize before.length).Ordered)
          ∧ ((t.parenthesize before.length).Ordered → ∀ s, evaluate s tree' = evaluate s tree) := by
  intro tokens
  have list := Token.isTokenList_tokens text
  rw [place] at list
  refine ⟨Token.tokens_intercalate (isTokenList_parenthesized list closed), ?_⟩
  obtain ⟨t, ordered, rfl, nodes_eq⟩ :=
    Tree.exists_ordered_of_readExpression complete (by simp [place]) operand
  refine ⟨t, rfl, nodes_eq, fun text' htext' => ?_⟩
  -- the old tree with the parentheses has the new tokens, and so has an ordered tree
  have wrapped : (t.parenthesize before.length).nodes
      = (Token.tokens text').map (classify false) := by
    rw [place, List.map_append, List.map_cons] at nodes_eq
    have wrapped := Tree.nodes_parenthesize operand nodes_eq
    rw [List.length_map] at wrapped
    rw [wrapped, htext', List.map_append]
    rfl
  have plain : ∀ a b c, .expression a b c ∉ (t.parenthesize before.length).nodes := by
    rw [wrapped]
    exact expression_notMem_map_classify _
  obtain ⟨u, ordered', same⟩ := Tree.exists_ordered (t.parenthesize before.length)
  have complete' := Tree.readExpression_of_ordered ordered' (same.trans wrapped)
  have iff := Tree.node_eq_iff_ordered plain ordered' same
  refine ⟨u.node, complete', fun s => ?_, iff, fun ordered s => ?_⟩
  · rw [Tree.failure?_node, same, ← Tree.failure?_node, failure?, Tree.evaluate_parenthesize,
      failure?]
  · rw [iff.mpr ordered, Tree.evaluate_parenthesize]

/-- Around a factor the parentheses delay the product, and the difference waits for it as before. -/
theorem parenthesized_operand_factor :
    ∃ tree tree', (readExpression "1 - 2 * A").value = ⟨tree, true⟩
      ∧ Token.tokens "1 - 2 * A" = ["1", "-"] ++ "2" :: ["*", "A"]
      ∧ (classify false "2").isOperand ∧ ¬ Token.IsOpenLiteral "2".toList
      ∧ (readExpression "1 - ( 2 ) * A").value = ⟨tree', true⟩
      ∧ ∀ s, evaluate s tree' = evaluate s tree := by
  let minus : Operator := ⟨.leaf .symbol "-", by decide⟩
  let times : Operator := ⟨.leaf .symbol "*", by decide⟩
  let old : Tree := .operation (.atom ⟨.leaf .number "1", rfl⟩) minus
    (.operation (.atom ⟨.leaf .number "2", rfl⟩) times (.atom ⟨.leaf .identifier "A", rfl⟩))
  have complete : (readExpression "1 - 2 * A").value = ⟨old.node, true⟩ :=
    Tree.readExpression_of_ordered (by decide) rfl
  have tokens : Token.tokens "1 - 2 * A" = ["1", "-"] ++ "2" :: ["*", "A"] := by decide
  have operand : (classify false "2").isOperand := by decide
  have closed : ¬ Token.IsOpenLiteral "2".toList := by
    rintro ⟨⟩
  obtain ⟨-, t, node_eq, nodes_eq, read⟩ := parenthesized_operand complete tokens operand closed
  have same : t = old := by
    refine Tree.node_injective ?_ ?_ node_eq
    · rw [nodes_eq]
      exact expression_notMem_map_classify _
    · exact expression_notMem_map_classify ["1", "-", "2", "*", "A"]
  subst same
  obtain ⟨tree', complete', -, -, value⟩ := read "1 - ( 2 ) * A" (by decide)
  exact ⟨_, tree', complete, tokens, operand, closed, complete', value (by decide)⟩

/-- The parentheses delay the product and not the sum, and no parenthesis closes behind a string
without an end. -/
theorem parenthesized_operand_regroups :
    let two : Node := .leaf .number "2"
    let three : Node := .leaf .number "3"
    let four : Node := .leaf .number "4"
    let times : Node := .leaf .symbol "*"
    let plus : Node := .leaf .symbol "+"
    let sum : Node := .expression (.expression two times three) plus four
    let product : Node :=
      .expression (.expression opening two closing) times (.expression three plus four)
    (readExpression "2 * 3 + 4").value = ⟨sum, true⟩
      ∧ (evaluate (.empty 0) sum).result.toOption = some 10
      ∧ (readExpression "( 2 ) * 3 + 4").value = ⟨product, true⟩
      ∧ (evaluate (.empty 0) product).result.toOption = some 14 ∧ (10 : Float) ≠ 14
      ∧ (readExpression "\"abc").value = ⟨.leaf .identifier "\"abc", true⟩
      ∧ (readExpression "( \"abc )").value.complete = false := by
  intro two three four times plus sum product
  let number (text : String) : Tree := .atom ⟨.leaf .number text, rfl⟩
  let mul : Operator := ⟨times, by decide⟩
  let add : Operator := ⟨plus, by decide⟩
  have old : (Tree.operation (.operation (number "2") mul (number "3")) add
      (number "4")).Ordered := by
    decide
  have new : (Tree.operation (.group (number "2")) mul
      (.operation (number "3") add (number "4"))).Ordered := by
    decide
  have string : (Tree.atom ⟨.leaf .identifier "\"abc", rfl⟩).Ordered := trivial
  refine ⟨Tree.readExpression_of_ordered old rfl, by decide +kernel,
    Tree.readExpression_of_ordered new rfl, by decide +kernel, by decide,
    Tree.readExpression_of_ordered string rfl, by decide +kernel⟩

end LineBasic.Expression
