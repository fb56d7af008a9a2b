/-
# What can go wrong in a value

Evaluation can fail in many ways: a node of a wrong kind, an expression that has not three parts, a
symbol that is no operator, a number that cannot be read.  **In a tree that was read from a text
only the last can happen** (`failure_of_parsed`), and the number reported is the first of those in
the value.

* An operand anywhere in a tree that was read has grown out of tokens (`grown_of_parsed`), so it is
  a tree of the grammar of expressions, over its own leaves (`exists_tree`).
* The failure of such a tree is that of its first operand with one, and of the leaves only numbers
  can fail (`failure?_leaf`, `failure?_of_isDerivation`).
-/
import LineBasic.Proofs.ExpressionTrees
import LineBasic.Proofs.ParsedTrees

namespace LineBasic

open Fold (AllGrown Grown)
open Source (lines program readExpression readTokens)

/-! ## 1. Operands of trees that were read -/

/-- The node is a number that cannot be read. -/
def Node.isMalformed : Node → Bool
  | mk .number value _ | mk .float value _ => (Number.literal? value).isNone
  | _ => false

namespace Source

/-- The trees that a text is read as: a program, or an expression or what it was attempted on. -/
inductive IsReadingOf (text : String) : Node → Prop
  | program : IsReadingOf text (program (lines text))
  | expression : IsReadingOf text (readExpression text).value.node

/-- An attempt to read an expression ends in a grown tree or a line of them. -/
theorem grown_readExpression (text : String) :
    Grown (readExpression text).value.node
      ∨ ∃ nodes, (readExpression text).value.node = .line nodes ∧ AllGrown nodes := by
  have leaves := allGrown_map_classify
    (((Token.read text.toList none).lexemes.map (·.text)).takeWhile (· ≠ Token.newline))
  simp only [readExpression]
  split
  · exact .inr ⟨_, rfl, leaves⟩
  · have folded := Fold.allGrown_foldAll leaves
    split
    · rename_i node single
      rw [single] at folded
      exact .inl (folded node List.mem_cons_self)
    · exact .inr ⟨_, rfl, folded⟩

/-- **An operand in a tree that was read has grown out of tokens.** -/
theorem grown_of_parsed {text : String} {tree n : Node} (read : IsReadingOf text tree)
    (hn : n ∈ tree.subtrees) (operand : n.isOperand) : Grown n := by
  cases read with
  | program =>
    have same : lines text = (readTokens (Token.tokens text)).value := by
      simp [lines_eq, readTokens, Function.comp_def]
    rw [same] at hn
    rcases mem_subtrees_program hn with rfl | ⟨ts, rfl⟩ | grown
    · cases operand
    · cases operand
    · exact grown
  | expression =>
    rcases grown_readExpression text with grown | ⟨nodes, line, grown⟩
    · exact grown.of_mem_subtrees hn
    · rw [line] at hn
      rcases List.mem_cons.mp hn with rfl | hn
      · cases operand
      · obtain ⟨node, hnode, below⟩ := Node.mem_subtreesAll hn
        exact (grown node hnode).of_mem_subtrees below

end Source

/-! ## 2. Their failures -/

namespace Expression

/-- A tree of the grammar is a tree over its leaves. -/
theorem exists_tree {n : Node} (h : IsDerivation n) :
    ∃ t : Tree, t.node = n ∧ t.nodes = n.leaves := by
  induction h with
  | @value kind text h =>
    exact ⟨.atom ⟨.leaf kind text, h.isOperand text⟩, rfl,
      (Node.leaves_leaf h.carriesToken text).symm⟩
  | @operation left right op hop _ _ ihl ihr =>
    obtain ⟨l, rfl, hl⟩ := ihl
    obtain ⟨r, rfl, hr⟩ := ihr
    have operator : (Node.leaf .symbol op).isSymbolAmong operators := by
      simpa [Node.isSymbolAmong, Node.leaf] using hop
    refine ⟨.operation l ⟨.leaf .symbol op, operator⟩ r, rfl, ?_⟩
    rw [Node.leaves_expression, ← hl, ← hr]
    rfl
  | @parentheses middle _ ih =>
    obtain ⟨t, rfl, ht⟩ := ih
    refine ⟨.group t, rfl, ?_⟩
    rw [Node.leaves_expression, ← ht]
    rfl

/-- The failure of a number that cannot be read. -/
def malformation? (n : Node) : Option EvalError :=
  if n.isMalformed then some (.malformedLiteral n.value) else none

theorem malformation?_eq_none_iff {n : Node} : malformation? n = none ↔ ¬ n.isMalformed := by
  simp [malformation?]

theorem malformation?_eq_some_iff {n : Node} {e : EvalError} :
    malformation? n = some e ↔ n.isMalformed ∧ .malformedLiteral n.value = e := by
  simp [malformation?]

variable (s : Store)

theorem failure?_literal (kind : Kind) (text : String) (h : kind = .number ∨ kind = .float) :
    failure? s (.leaf kind text) = malformation? (.leaf kind text) := by
  have value : evaluate s (.leaf kind text) = literalValue text := by
    rcases h with rfl | rfl <;> rfl
  have malformed : (Node.leaf kind text).isMalformed = (Number.literal? text).isNone := by
    rcases h with rfl | rfl <;> rfl
  rw [failure?, value, literalValue, malformation?, malformed]
  cases Number.literal? text <;> rfl

/-- **Of the operands, only numbers that cannot be read fail.** -/
theorem failure?_leaf {kind : Kind} (h : IsValueKind kind) (text : String) :
    failure? s (.leaf kind text) = malformation? (.leaf kind text) := by
  rcases h with rfl | rfl | rfl
  · exact failure?_literal s .number text (.inl rfl)
  · exact failure?_literal s .float text (.inr rfl)
  · rfl

/-- **A tree of the grammar fails as its first malformed leaf does.** -/
theorem failure?_of_isDerivation {n : Node} (h : IsDerivation n) :
    failure? s n = n.leaves.findSome? malformation? := by
  have each : ∀ m ∈ n.leaves, (if m.isOperand then failure? s m else none) = malformation? m := by
    intro m hm
    rcases mem_of_derivable (derivable_leaves h) hm with ⟨kind, text, hkind, rfl⟩ | ⟨text, rfl⟩
    · rw [if_pos (hkind.isOperand text), failure?_leaf s hkind]
    · rfl
  obtain ⟨t, node_eq, nodes_eq⟩ := exists_tree h
  calc failure? s n
      = ((n.leaves.filter Node.isOperand).filterMap (failure? s)).head? := by
        rw [List.head?_filterMap, ← node_eq, Tree.failure?_node, nodes_eq, node_eq]
    _ = (n.leaves.filterMap malformation?).head? := by
        rw [List.filterMap_filter, List.filterMap_congr each]
    _ = n.leaves.findSome? malformation? := List.head?_filterMap

theorem failure?_eq_some_iff {n : Node} {e : EvalError} :
    failure? s n = some e ↔ (evaluate s n).result = .error e := by
  unfold failure?
  cases (evaluate s n).result <;> simp

/-- **A value that was read fails only on a bad literal.**  Whatever the text and the variables are,
and wherever the value stands in what was read: it fails iff one of its numbers cannot be read, and
then the error is that of the first of these and quotes it. -/
theorem failure_of_parsed {text : String} {tree n : Node} (read : Source.IsReadingOf text tree)
    (hn : n ∈ tree.subtrees) (operand : n.isOperand) (s : Store) :
    ((∃ e, (evaluate s n).result = .error e) ↔ ∃ leaf ∈ n.leaves, leaf.isMalformed)
    ∧ ∀ e, (evaluate s n).result = .error e →
        ∃ before leaf after, n.leaves = before ++ leaf :: after ∧ (∀ m ∈ before, ¬ m.isMalformed)
          ∧ leaf.isMalformed ∧ e = .malformedLiteral leaf.value
          ∧ e.message = "malformed numeric literal: " ++ Text.quoted leaf.value := by
  have derivation := isDerivation_of_grown (Source.grown_of_parsed read hn operand) operand
  have failure := failure?_of_isDerivation s derivation
  constructor
  · simp only [← failure?_eq_some_iff, failure, ← Option.isSome_iff_exists,
      List.findSome?_isSome_iff]
    simp [malformation?]
  · intro e he
    rw [← failure?_eq_some_iff, failure, List.findSome?_eq_some_iff] at he
    obtain ⟨before, leaf, after, split, found, passed⟩ := he
    obtain ⟨malformed, rfl⟩ := malformation?_eq_some_iff.mp found
    exact ⟨before, leaf, after, split, fun m hm => malformation?_eq_none_iff.mp (passed m hm),
      malformed, rfl, rfl⟩

/-- Behind a good number and a parenthesis, the first of two bad numbers is the one reported. -/
theorem failure_of_parsed_two_bad :
    ∃ n ∈ (readExpression "2 * ( 1.2.3 + 4..5 )").value.node.subtrees, n.isOperand
      ∧ (evaluate (.empty 10) n).result = .error (.malformedLiteral "1.2.3")
      ∧ ∃ before leaf after, n.leaves = before ++ leaf :: after ∧ (∀ m ∈ before, ¬ m.isMalformed)
          ∧ leaf.isMalformed ∧ EvalError.malformedLiteral "1.2.3" = .malformedLiteral leaf.value
          ∧ (EvalError.malformedLiteral "1.2.3").message
            = "malformed numeric literal: " ++ Text.quoted leaf.value := by
  let times : Operator := ⟨.leaf .symbol "*", by decide⟩
  let plus : Operator := ⟨.leaf .symbol "+", by decide⟩
  let tree : Tree := .operation (.atom ⟨.leaf .number "2", rfl⟩) times
    (.group (.operation (.atom ⟨.leaf .float "1.2.3", rfl⟩) plus
      (.atom ⟨.leaf .float "4..5", rfl⟩)))
  have read : (readExpression "2 * ( 1.2.3 + 4..5 )").value = ⟨tree.node, true⟩ :=
    Tree.readExpression_of_ordered (by decide) rfl
  have mem : tree.node ∈ (readExpression "2 * ( 1.2.3 + 4..5 )").value.node.subtrees := by
    rw [read]
    exact List.mem_cons_self
  have value : (evaluate (.empty 10) tree.node).result = .error (.malformedLiteral "1.2.3") := rfl
  exact ⟨tree.node, mem, rfl, value, (failure_of_parsed .expression mem rfl (.empty 10)).2 _ value⟩

end Expression

end LineBasic
