/-
# Parsed trees

A list of tokens, whatever they are, is read as a tree that **has just these tokens as its leaves,
in their order, and keeps the rules for nodes** (`parsed_tree`).

* The tokens are cut at the newlines, one line for each of them and one for what is left over
  (`cut_segments`).
* Folding keeps the leaves of a line.  The only leaf that is added is the `LET` of a numbered
  assignment, and the place to see whether there is one is the folded line: it begins with a number
  and an identifier (`isLineOf_readLine`).
* Each node keeps the rules (`IsWellShaped`), since it has grown out of leaves, one window at a
  time.  That a line number stands at the start of its line, and nowhere else, is seen from the
  classification: only the first token of a line can become one, and it is in no window.
-/
import LineBasic.Proofs.ExpressionGrammar
import LineBasic.Proofs.Listing
import LineBasic.Proofs.ProgramInvariant

namespace LineBasic

open Expression (operators)
open Fold (AllGrown Grown)
open Source (Line classify completed kindOf leaves letWord readLine segments statementNodes withLet)

/-! ## 1. The rules for nodes -/

/-- The children of an expression: an operator between two operands, or an operand in
parentheses. -/
inductive IsExpressionParts : List Node → Prop
  | operation {left right : Node} {op : String} (hop : op ∈ operators) (hleft : left.isOperand)
      (hright : right.isOperand) : IsExpressionParts [left, .leaf .symbol op, right]
  | parentheses {middle : Node} (hmiddle : middle.isOperand) :
      IsExpressionParts [.leaf .symbol "(", middle, .leaf .symbol ")"]

/-- The rules that a node of a parsed tree keeps. -/
structure Node.IsWellShaped (n : Node) : Prop where
  known : n.Known
  /-- What carries a token has no children. -/
  token : ∀ kind ∈ n.kind?, kind.carriesToken → n.children = []
  /-- A program, a line or an expression has no text of its own. -/
  structural : n.kind? ∈ [some .program, some .line, some .expression] → n.value = ""
  parts : n.kind? = some .expression → IsExpressionParts n.children
  /-- A line number is made of digits, and begins a line. -/
  lineNumber : ∀ k child, n.children[k]? = some child → child.kind? = some .lineNumber →
    n.kind? = some .line ∧ k = 0 ∧ Source.isAllDigits child.value

namespace Node

theorem kind?_ne_lineNumber_of_isOperand {n : Node} (h : n.isOperand) :
    n.kind? ≠ some .lineNumber := by
  intro hkind
  cases n with
  | hole => cases hkind
  | mk kind value children =>
    obtain rfl : kind = .lineNumber := Option.some.inj hkind
    cases h

/-- A leaf of a kind that carries a token keeps the rules. -/
theorem isWellShaped_leaf {kind : Kind} (h : kind.carriesToken) (value : String) :
    (leaf kind value).IsWellShaped where
  known := (Grown.leaf value h).known
  token := fun _ _ _ => rfl
  structural := by
    intro hkind
    have other : kind = .program ∨ kind = .line ∨ kind = .expression := by
      simpa [leaf, kind?] using hkind
    rcases other with rfl | rfl | rfl <;> cases h
  parts := by
    intro hkind
    obtain rfl : kind = .expression := Option.some.inj hkind
    cases h
  lineNumber := by
    intro k child hchild
    cases hchild

end Node

theorem IsExpressionParts.kind?_ne_lineNumber {parts : List Node} (h : IsExpressionParts parts) :
    ∀ n ∈ parts, n.kind? ≠ some .lineNumber := by
  intro n hn
  cases h with
  | operation _ hleft hright =>
    simp only [List.mem_cons, List.not_mem_nil, or_false] at hn
    rcases hn with rfl | rfl | rfl
    · exact Node.kind?_ne_lineNumber_of_isOperand hleft
    · simp [Node.leaf, Node.kind?]
    · exact Node.kind?_ne_lineNumber_of_isOperand hright
  | parentheses hmiddle =>
    simp only [List.mem_cons, List.not_mem_nil, or_false] at hn
    rcases hn with rfl | rfl | rfl
    · simp [Node.leaf, Node.kind?]
    · exact Node.kind?_ne_lineNumber_of_isOperand hmiddle
    · simp [Node.leaf, Node.kind?]

theorem Fold.isExpressionParts_of_fits {level : Fold.Level} {a b c : Node} (ha : Grown a)
    (hb : Grown b) (hc : Grown c) (fits : level.fits a b c) : IsExpressionParts [a, b, c] := by
  cases level with
  | parenthesis =>
    simp only [Fold.Level.fits, Bool.and_eq_true] at fits
    rw [Expression.eq_leaf_of_isSymbol ha fits.1.1, Expression.eq_leaf_of_isSymbol hc fits.2]
    exact .parentheses fits.1.2
  | _ =>
    simp only [Fold.Level.fits, Bool.and_eq_true] at fits
    obtain ⟨op, hop, rfl⟩ := Expression.eq_leaf_of_isSymbolAmong hb fits.1.1
    exact .operation (Expression.mem_operators hop) fits.1.2 fits.2

theorem IsExpressionParts.isWellShaped {a b c : Node} (h : IsExpressionParts [a, b, c]) :
    (Node.expression a b c).IsWellShaped where
  known := trivial
  token := by
    intro kind hkind carries
    obtain rfl : Kind.expression = kind := Option.some.inj hkind
    cases carries
  structural := fun _ => rfl
  parts := fun _ => h
  lineNumber := by
    intro k child hchild hkind
    exact absurd hkind (h.kind?_ne_lineNumber child (List.mem_of_getElem? hchild))

/-- **Grown trees keep the rules.** -/
theorem Fold.Grown.isWellShaped {n : Node} (h : Grown n) : n.IsWellShaped := by
  cases h with
  | leaf value h => exact Node.isWellShaped_leaf h value
  | window fits ha hb hc => exact (isExpressionParts_of_fits ha hb hc fits).isWellShaped

/-! ## 2. Lines -/

namespace Source

/-- The list of nodes begins with a line number and an identifier. -/
def BeginsAssignment (nodes : List Node) : Prop :=
  ∃ number word rest, nodes = number :: word :: rest ∧ number.kind? = some .lineNumber
    ∧ word.kind? = some .identifier

theorem lacksLet_iff (nodes : List Node) : lacksLet nodes ↔ BeginsAssignment nodes := by
  rcases nodes with _ | ⟨number, _ | ⟨word, rest⟩⟩
  · simp [lacksLet, BeginsAssignment]
  · simp [lacksLet, BeginsAssignment]
  · simp [lacksLet, BeginsAssignment]

theorem withLet_of_beginsAssignment {nodes : List Node} (h : BeginsAssignment nodes) :
    withLet nodes = nodes.take 1 ++ letWord :: nodes.drop 1 := by
  have lacks := (lacksLet_iff nodes).mpr h
  obtain ⟨number, word, rest, rfl, -⟩ := h
  simp [withLet, lacks]

theorem withLet_of_not_beginsAssignment {nodes : List Node} (h : ¬ BeginsAssignment nodes) :
    withLet nodes = nodes := by
  have complete : ¬ lacksLet nodes := fun lacks => h ((lacksLet_iff nodes).mp lacks)
  cases nodes with
  | nil => rfl
  | cons number rest => simp [withLet, complete]

theorem leavesAll_leaves (ts : List String) : Node.leavesAll (leaves ts) = leaves ts := by
  cases ts with
  | nil => rfl
  | cons t ts => simp [leaves, leavesAll_map_classify]

/-- A grown tree that is a line number is a leaf. -/
theorem leaves_of_lineNumber {n : Node} (grown : Grown n) (h : n.kind? = some .lineNumber) :
    n.leaves = [n] := by
  cases grown with
  | leaf value hkind => exact Node.leaves_leaf hkind value
  | window => cases h

/-- The tree is that of a line with the given tokens.  Folded, the tokens are still there, in their
order; the line is what they fold to, with a `LET` at its second place iff that begins with a line
number and an identifier. -/
structure IsLineOf (ts : List String) (line : Node) : Prop where
  kind : line.kind? = some .line
  folded : (Fold.foldAll (leaves ts)).fault = none
  tokens : (Node.leavesAll (Fold.foldAll (leaves ts)).nodes).map Node.value = ts
  added : BeginsAssignment (Fold.foldAll (leaves ts)).nodes →
    line.children = (Fold.foldAll (leaves ts)).nodes.take 1
        ++ .leaf .statementName "LET" :: (Fold.foldAll (leaves ts)).nodes.drop 1
      ∧ line.leaves.map Node.value = ts.take 1 ++ "LET" :: ts.drop 1
  kept : ¬ BeginsAssignment (Fold.foldAll (leaves ts)).nodes →
    line.children = (Fold.foldAll (leaves ts)).nodes ∧ line.leaves.map Node.value = ts

/-- **A line loses no token**, and gets no other than the `LET` it left out. -/
theorem isLineOf_readLine (ts : List String) : IsLineOf ts (readLine ts).value.node := by
  have grown : AllGrown (Fold.foldAll (leaves ts)).nodes :=
    Fold.allGrown_foldAll (allGrown_leaves ts)
  have same : Node.leavesAll (Fold.foldAll (leaves ts)).nodes = leaves ts :=
    (Fold.leavesAll_foldAll (allGrown_leaves ts).known).trans (leavesAll_leaves ts)
  have tokens : (Node.leavesAll (Fold.foldAll (leaves ts)).nodes).map Node.value = ts := by
    rw [same, map_value_leaves]
  have line_leaves : (readLine ts).value.node.leaves
      = Node.leavesAll (withLet (Fold.foldAll (leaves ts)).nodes) := rfl
  refine ⟨rfl, Fold.fault_foldAll (allGrown_leaves ts).known, tokens, fun begins => ?_,
    fun complete => ?_⟩
  · refine ⟨withLet_of_beginsAssignment begins, ?_⟩
    rw [line_leaves, withLet_of_beginsAssignment begins]
    obtain ⟨number, word, rest, hnodes, hnumber, -⟩ := begins
    rw [hnodes] at grown tokens ⊢
    have first := leaves_of_lineNumber (grown number (by simp)) hnumber
    rw [Node.leavesAll_cons, first, List.singleton_append, List.map_cons] at tokens
    have word_leaf : letWord.leaves = [letWord] := Node.leaves_leaf rfl "LET"
    have word_value : letWord.value = "LET" := rfl
    rw [← tokens]
    simp [first, word_leaf, word_value]
  · refine ⟨withLet_of_not_beginsAssignment complete, ?_⟩
    rw [line_leaves, withLet_of_not_beginsAssignment complete, tokens]

/-! ## 3. Line numbers -/

theorem isAllDigits_of_kindOf {t : String} (h : kindOf true t = .lineNumber) : isAllDigits t := by
  by_contra other
  exact kindOf_true_ne_lineNumber (Bool.eq_false_iff.mpr other) h

/-- **A line number is the first node of its line**, and made of digits. -/
theorem lineNumber_of_readLine {ts : List String} {k : Nat} {n : Node}
    (hn : (readLine ts).value.nodes[k]? = some n) (hkind : n.kind? = some .lineNumber) :
    k = 0 ∧ isAllDigits n.value := by
  cases ts with
  | nil =>
    rw [nodes_readLine_nil] at hn
    cases hn
  | cons t ts =>
    by_cases first : kindOf true t = .lineNumber
    · rw [nodes_readLine_numbered first] at hn
      cases k with
      | zero =>
        obtain rfl : classify true t = n := Option.some.inj hn
        exact ⟨rfl, isAllDigits_of_kindOf first⟩
      | succ k =>
        -- behind the number there is a statement, perhaps with a `LET` in front
        have mem : n ∈ completed (statementNodes ts) := List.mem_of_getElem? hn
        obtain ⟨us, -, completion⟩ := exists_completed ts
        rw [← completion] at mem
        exact absurd hkind (kind?_ne_lineNumber mem)
    · rw [nodes_readLine_unnumbered first] at hn
      exact absurd hkind (kind?_ne_lineNumber (List.mem_of_getElem? hn))

theorem isWellShaped_line (ts : List String) : (readLine ts).value.node.IsWellShaped where
  known := trivial
  token := by
    intro kind hkind carries
    obtain rfl : Kind.line = kind := Option.some.inj hkind
    cases carries
  structural := fun _ => rfl
  parts := by
    intro hkind
    cases hkind
  lineNumber := by
    intro k child hchild hkind
    exact ⟨rfl, lineNumber_of_readLine hchild hkind⟩

/-! ## 4. Programs -/

/-- The tokens are cut at their newlines: some lines, each with a newline behind it, and what is
left over. -/
structure IsCut (tokens : List String) (ended : List (List String)) (rest : List String) :
    Prop where
  whole : tokens = ended.flatMap (· ++ [Token.newline]) ++ rest
  inside : ∀ ts ∈ ended, Token.newline ∉ ts
  behind : Token.newline ∉ rest

/-- **The lines of a token list** are those that a newline ends, and what is left over unless it is
empty. -/
theorem cut_segments (tokens : List String) :
    ∃ ended rest, IsCut tokens ended rest
      ∧ segments tokens = ended ++ if rest = [] then [] else [rest] := by
  by_cases mem : Token.newline ∈ tokens
  · -- up to the first newline there is a line, and behind it the same again
    obtain ⟨first, others, cut, newline⟩ := List.eq_append_cons_of_mem mem
    have shorter : others.length < tokens.length := by
      rw [cut, List.length_append, List.length_cons]
      omega
    obtain ⟨ended, rest, ⟨whole, inside, behind⟩, lines⟩ := cut_segments others
    refine ⟨first :: ended, rest, ⟨?_, ?_, behind⟩, ?_⟩
    · rw [cut, whole]
      simp
    · intro ts hts
      rcases List.mem_cons.mp hts with rfl | hts
      · exact newline
      · exact inside ts hts
    · rw [cut, segments_append_newline newline, lines, List.cons_append]
  · refine ⟨[], tokens, ⟨by simp, by simp, mem⟩, ?_⟩
    by_cases nothing : tokens = []
    · rw [nothing]
      rfl
    · rw [segments_of_notMem mem nothing, if_neg nothing, List.nil_append]
termination_by tokens.length

theorem IsCut.length_eq {tokens : List String} {ended : List (List String)} {rest : List String}
    (h : IsCut tokens ended rest) : ended.length = tokens.count Token.newline := by
  obtain ⟨rfl, inside, behind⟩ := h
  rw [List.count_append, List.count_eq_zero.mpr behind, Nat.add_zero]
  induction ended with
  | nil => rfl
  | cons ts ended ih =>
    rw [List.flatMap_cons, List.count_append, List.count_append,
      List.count_eq_zero.mpr (inside ts (by simp)), ← ih fun us hus => inside us (by simp [hus]),
      List.length_cons, List.count_singleton_self]
    omega

/-- The nodes of a program: the program itself, its lines, and what has grown in them. -/
theorem mem_subtrees_program {tokens : List String} {m : Node}
    (h : m ∈ (program (readTokens tokens).value).subtrees) :
    m = program (readTokens tokens).value ∨ (∃ ts, m = (readLine ts).value.node) ∨ Grown m := by
  have children : (readTokens tokens).value.map Line.node
      = (segments tokens).map fun ts => (readLine ts).value.node := by
    simp [readTokens, Function.comp_def]
  rcases List.mem_cons.mp h with rfl | h
  · exact .inl rfl
  · obtain ⟨line, hline, below⟩ := Node.mem_subtreesAll h
    rw [children] at hline
    obtain ⟨ts, -, rfl⟩ := List.mem_map.mp hline
    rcases List.mem_cons.mp below with rfl | below
    · exact .inr (.inl ⟨ts, rfl⟩)
    · obtain ⟨node, hnode, below⟩ := Node.mem_subtreesAll below
      have grown : AllGrown (readLine ts).value.nodes := by
        rw [nodes_readLine]
        exact allGrown_withLet (Fold.allGrown_foldAll (allGrown_leaves ts))
      exact .inr (.inr ((grown node hnode).of_mem_subtrees below))

theorem isWellShaped_root (tokens : List String) :
    (program (readTokens tokens).value).IsWellShaped where
  known := trivial
  token := by
    intro kind hkind carries
    obtain rfl : Kind.program = kind := Option.some.inj hkind
    cases carries
  structural := fun _ => rfl
  parts := by
    intro hkind
    cases hkind
  lineNumber := by
    intro k child hchild hkind
    have mem : child ∈ (readTokens tokens).value.map Line.node := List.mem_of_getElem? hchild
    obtain ⟨line, -, rfl⟩ := List.mem_map.mp mem
    cases hkind

theorem isWellShaped_program (tokens : List String) :
    ∀ m ∈ (program (readTokens tokens).value).subtrees, m.IsWellShaped := by
  intro m hm
  rcases mem_subtrees_program hm with rfl | ⟨ts, rfl⟩ | grown
  · exact isWellShaped_root tokens
  · exact isWellShaped_line ts
  · exact grown.isWellShaped

/-- **Reading loses, invents and reorders nothing.**  Any tokens are read as a program with one line
for each newline and one for what is left over, unless that is empty.  The leaves of each line are
its tokens, and a `LET` where the line left it out; and every node keeps the rules. -/
theorem parsed_tree (tokens : List String) :
    let tree := program (readTokens tokens).value
    tree.kind? = some .program
      ∧ (∃ ended rest, IsCut tokens ended rest ∧ ended.length = tokens.count Token.newline
          ∧ List.Forall₂ IsLineOf (ended ++ if rest = [] then [] else [rest]) tree.children)
      ∧ ∀ m ∈ tree.subtrees, m.IsWellShaped := by
  intro tree
  obtain ⟨ended, rest, cut, lines⟩ := cut_segments tokens
  refine ⟨rfl, ⟨ended, rest, cut, cut.length_eq, ?_⟩, isWellShaped_program tokens⟩
  have children : tree.children = (segments tokens).map fun ts => (readLine ts).value.node := by
    simp [tree, program, readTokens, Node.children, Function.comp_def]
  rw [children, ← lines]
  exact List.forall₂_map_right_iff.mpr (List.forall₂_same.mpr fun ts _ => isLineOf_readLine ts)

end Source

end LineBasic
