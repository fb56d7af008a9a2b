/-
# Expressions as they are written

An expression is given as a tree of literals, names, operations and parentheses (`Written`), and
written down with its tokens separated by blanks and every operation in parentheses.  Read back, the
text gives the tree that mirrors the expression, and the tree has the value that was meant
(`readExpression_text`).

**In such a text the order of folding is of no account.**  An operand is one token or something in
parentheses, and an operator is folded only when both of its operands are one node each.  So the
tree that was written is ordered (`Written.ordered_toTree`), whatever its shape and depth.
-/
import LineBasic.Proofs.ExpressionTrees
import LineBasic.Proofs.LiteralText

namespace LineBasic.Expression

open Number (Literal)
open Source (classify kindOf readExpression)
open Token (IsToken)

/-! ## 1. Expressions and their text -/

/-- A name: letters, perhaps a type mark, and no word that names a statement. -/
structure Name where
  letters : List Char
  mark : Option Char
  nonempty : letters ≠ []
  isAlpha : ∀ c ∈ letters, c.isAlpha
  isTypeMark : ∀ c ∈ mark, Token.isTypeMark c
  notKeyword : String.ofList (letters ++ mark.toList) ∉ Source.keywords

def Name.text (n : Name) : String := String.ofList (n.letters ++ n.mark.toList)

/-- The five operations. -/
inductive Operation where
  | add
  | sub
  | mul
  | div
  | pow

namespace Operation

def symbol : Operation → String
  | add => "+"
  | sub => "-"
  | mul => "*"
  | div => "/"
  | pow => "^"

/-- What an operation computes. -/
def apply : Operation → Float → Float → Float
  | add => (· + ·)
  | sub => (· - ·)
  | mul => (· * ·)
  | div => (· / ·)
  | pow => Number.pow

end Operation

/-- An expression to be written. -/
inductive Written where
  | literal (l : Literal)
  | name (n : Name)
  | operation (left : Written) (op : Operation) (right : Written)
  | parentheses (inner : Written)

namespace Written

/-- The tokens of an expression, with parentheses around every operation. -/
def tokens : Written → List String
  | literal l => [l.text]
  | name n => [n.text]
  | operation left op right => "(" :: (left.tokens ++ op.symbol :: right.tokens ++ [")"])
  | parentheses inner => "(" :: (inner.tokens ++ [")"])

/-- The text of an expression, its tokens separated by blanks. -/
def text (e : Written) : String := " ".intercalate e.tokens

/-- The parse tree that mirrors an expression. -/
def tree : Written → Node
  | literal l => .leaf l.kind l.text
  | name n => .leaf .identifier n.text
  | operation left op right =>
    .expression opening (.expression left.tree (.leaf .symbol op.symbol) right.tree) closing
  | parentheses inner => .expression opening inner.tree closing

/-- The value that is meant by an expression. -/
def value (s : Store) : Written → Float
  | literal l => l.value
  | name n => (s.scalars.find? n.text).getD 0
  | operation left op right => op.apply (left.value s) (right.value s)
  | parentheses inner => inner.value s

end Written

/-! ## 2. Every token is read as it was meant -/

theorem classify_literal (l : Literal) : classify false l.text = .leaf l.kind l.text := by
  rw [classify, l.kindOf_text]

theorem isOperand_literal (l : Literal) : (Node.leaf l.kind l.text).isOperand := by
  unfold Literal.kind
  split_ifs <;> rfl

theorem evaluate_literal (s : Store) (l : Literal) :
    evaluate s (.leaf l.kind l.text) = .ok l.value := by
  unfold Literal.kind
  split_ifs <;> simp [Node.leaf, evaluate, nodeValue, literalValue, l.literal?_text]

theorem toNat_lt_of_isAlpha {c : Char} (h : c.isAlpha) : c.toNat < 0x80 := by
  have range := Token.isAlpha_iff_toNat.mp h
  omega

namespace Name

variable (n : Name)

theorem toList_text : n.text.toList = n.letters ++ n.mark.toList := String.toList_ofList

theorem isToken : IsToken n.text.toList := by
  have stem : Token.IsStem n.letters := by
    obtain ⟨c, rest, hletters⟩ := List.exists_cons_of_ne_nil n.nonempty
    have alpha := n.isAlpha
    rw [hletters] at alpha ⊢
    have hrest : ∀ d ∈ rest, d.isAlpha || d.isDigit := fun d hd => by simp [alpha d (by simp [hd])]
    exact .mk .nothing (alpha c (by simp)) hrest
  rw [toList_text]
  rcases hmark : n.mark with _ | c
  · simpa using IsToken.word stem
  · exact .markedWord stem (n.isTypeMark c hmark)

/-- A character of a name is a letter or a type mark. -/
theorem class_of_mem {c : Char} (h : c ∈ n.text.toList) : c.isAlpha ∨ Token.isTypeMark c := by
  rw [toList_text] at h
  rcases List.mem_append.mp h with h | h
  · exact .inl (n.isAlpha c h)
  · exact .inr (n.isTypeMark c (Option.mem_toList.mp h))

theorem plain_of_mem {c : Char} (h : c ∈ n.text.toList) : c ≠ '"' ∧ c ≠ ' ' ∧ c ≠ '\n' :=
  (n.class_of_mem h).elim Token.plain_of_isAlpha Token.plain_of_isTypeMark

theorem kindOf_text : kindOf false n.text = .identifier := by
  have unquoted : Source.isStringLiteral n.text = false := by
    have quote : n.text.toList.head? ≠ some '"' := fun h =>
      (n.plain_of_mem (List.mem_of_mem_head? h)).1 rfl
    simp [Source.isStringLiteral, quote]
  have undigited : n.text.toList.any Text.isDigit = false := by
    rw [List.any_eq_false]
    intro c hc
    rcases n.class_of_mem hc with alpha | mark
    · rw [Text.isDigit_ascii (toNat_lt_of_isAlpha alpha)]
      exact fun digit => Token.not_isAlpha_of_isDigit digit alpha
    · simp only [Token.isTypeMark, Bool.or_eq_true, decide_eq_true_eq] at mark
      rcases mark with rfl | rfl <;> decide
  have letter : n.text.toList.any Text.isLetter := by
    obtain ⟨c, hc⟩ := List.exists_mem_of_ne_nil _ n.nonempty
    have alpha := n.isAlpha c hc
    refine List.any_eq_true.mpr ⟨c, ?_, ?_⟩
    · rw [toList_text]
      exact List.mem_append_left _ hc
    · rwa [Text.isLetter_ascii (toNat_lt_of_isAlpha alpha)]
  have free : n.text ∉ Source.keywords := n.notKeyword
  simp [kindOf, unquoted, undigited, letter, free]

theorem classify_text : classify false n.text = .leaf .identifier n.text := by
  rw [classify, n.kindOf_text]

end Name

namespace Operation

theorem classify_symbol (op : Operation) : classify false op.symbol = .leaf .symbol op.symbol := by
  have kind : kindOf false op.symbol = .symbol := by cases op <;> decide
  rw [classify, kind]

theorem isToken (op : Operation) : IsToken op.symbol.toList := by
  cases op <;> exact .symbol (by decide)

/-- The operation as an operator of the grammar. -/
def operator (op : Operation) : Operator :=
  ⟨.leaf .symbol op.symbol, by cases op <;> decide⟩

theorem applyOperator_symbol (op : Operation) (a c : Float) :
    (applyOperator op.symbol a c).result = .ok (op.apply a c) := by
  cases op <;> rfl

end Operation

/-! ## 3. The tree that was written -/

namespace Written

/-- The expression as a tree over its tokens. -/
def toTree : Written → Tree
  | literal l => .atom ⟨.leaf l.kind l.text, isOperand_literal l⟩
  | name n => .atom ⟨.leaf .identifier n.text, rfl⟩
  | operation left op right => .group (.operation left.toTree op.operator right.toTree)
  | parentheses inner => .group inner.toTree

theorem node_toTree (e : Written) : e.toTree.node = e.tree := by
  induction e with
  | literal l => rfl
  | name n => rfl
  | operation left op right ihl ihr =>
    simp only [toTree, Tree.node, ihl, ihr, tree, Operation.operator]
  | parentheses inner ih => simp only [toTree, Tree.node, ih, tree]

theorem nodes_toTree (e : Written) : e.toTree.nodes = e.tokens.map (classify false) := by
  have opening_eq : classify false "(" = opening := rfl
  have closing_eq : classify false ")" = closing := rfl
  induction e with
  | literal l => simp [toTree, Tree.nodes, tokens, classify_literal]
  | name n => simp [toTree, Tree.nodes, tokens, n.classify_text]
  | operation left op right ihl ihr =>
    simp [toTree, Tree.nodes, tokens, ihl, ihr, op.classify_symbol, Operation.operator, opening_eq,
      closing_eq]
  | parentheses inner ih => simp [toTree, Tree.nodes, tokens, ih, opening_eq, closing_eq]

/-- An operand is one node to its neighbours as soon as it is one node. -/
theorem pass_toTree (e : Written) :
    e.toTree.firstPass = e.toTree.pass ∧ e.toTree.lastPass = e.toTree.pass := by
  cases e <;> exact ⟨rfl, rfl⟩

theorem ordered_toTree (e : Written) : e.toTree.Ordered := by
  induction e with
  | literal l => trivial
  | name n => trivial
  | operation left op right ihl ihr =>
    have own := Tree.pass_operation left.toTree op.operator right.toTree
    have positive := firstPassOf_pos op.operator.level
    rw [left.pass_toTree.2, right.pass_toTree.1] at own
    exact ⟨ihl, ihr, by omega, by omega⟩
  | parentheses inner ih => exact ih

theorem isToken_of_mem {e : Written} {t : String} (h : t ∈ e.tokens) : IsToken t.toList := by
  have parenthesis {t : String} (h : t = "(" ∨ t = ")") : IsToken t.toList := by
    rcases h with rfl | rfl
    · exact .symbol (by decide)
    · exact .symbol (by decide)
  induction e with
  | literal l =>
    rw [List.mem_singleton.mp h]
    exact l.isToken
  | name n =>
    rw [List.mem_singleton.mp h]
    exact n.isToken
  | operation left op right ihl ihr =>
    simp only [tokens, List.mem_cons, List.mem_append, List.not_mem_nil, or_false] at h
    rcases h with h | (h | rfl | h) | h
    · exact parenthesis (.inl h)
    · exact ihl h
    · exact op.isToken
    · exact ihr h
    · exact parenthesis (.inr h)
  | parentheses inner ih =>
    simp only [tokens, List.mem_cons, List.mem_append, List.not_mem_nil, or_false] at h
    rcases h with h | h | h
    · exact parenthesis (.inl h)
    · exact ih h
    · exact parenthesis (.inr h)

theorem tokens_text (e : Written) : Token.tokens e.text = e.tokens := by
  have complete : ∀ t ∈ e.tokens, IsToken t.toList := fun _ ht => isToken_of_mem ht
  have list := Token.IsTokenList.append complete .nil
  rw [List.append_nil] at list
  exact Token.tokens_intercalate list

theorem result_evaluate_toTree (e : Written) (s : Store) :
    (evaluate s e.toTree.node).result = .ok (e.value s) := by
  induction e with
  | literal l =>
    rw [toTree, Tree.node, evaluate_literal]
    rfl
  | name n => rfl
  | operation left op right ihl ihr =>
    rw [toTree, Tree.evaluate_group, Tree.evaluate_operation]
    simp only [Traced.result_bind, ihl, ihr]
    exact op.applyOperator_symbol _ _
  | parentheses inner ih =>
    rw [toTree, Tree.evaluate_group, ih]
    rfl

end Written

/-- **Every expression can be written down.**  Its text is read completely, as the tree that mirrors
it; and in every store that tree has the value that was meant. -/
theorem readExpression_text (e : Written) :
    (readExpression e.text).value = ⟨e.tree, true⟩ ∧
      ∀ s, (evaluate s e.tree).result = .ok (e.value s) := by
  rw [← e.node_toTree]
  constructor
  · refine Tree.readExpression_of_ordered e.ordered_toTree ?_
    rw [e.nodes_toTree, e.tokens_text]
  · exact e.result_evaluate_toTree

end LineBasic.Expression
