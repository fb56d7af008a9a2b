/-
# Which assignments are accepted

The grammar of assignments is

    A ::= LET identifier = E  |  LET identifier ( E ) = E

where `E` is an expression.  What is accepted is more than that.  An assignment is taken apart by
the positions and kinds of its folded nodes, so an accepted one reads

    LET identifier = E …  |  LET identifier I = E …

where `I` is any expression of more than one token and anything may follow the value.  **It belongs
to the grammar iff nothing follows the value and the index, if there is one, is in parentheses**
(`form_of_accepted_assignment`).

* Accepted nodes have this form because only trees of the grammar have values (`exists_form`).
* That an assignment of the grammar folds to a form with nothing behind the value and an index in
  parentheses is a question of folding (`foldAll_of_isAssignment`).  The keyword and the equals sign
  keep what is on their sides apart.  In front of the equals sign, an identifier stands before an
  opening parenthesis, and the order of folds decides nothing there: folding the parentheses alone
  ends in two nodes, so folding in the usual order does too.
-/
import LineBasic.Proofs.FoldingConfluence
import LineBasic.Proofs.History
import LineBasic.Proofs.StatementEffects
import Mathlib

namespace LineBasic

open Expression (Derivable IsDerivation operators)
open Fold (AllGrown AllKnown Grown foldAll)
open Source (Line letWord statementNodes)

/-! ## 1. Trees and their flat forms -/

theorem Node.leaves_symbol (text : String) :
    (Node.leaf .symbol text).leaves = [.leaf .symbol text] := Node.leaves_leaf rfl text

namespace Expression

theorem allGrown_of_derivable {u : List Node} (h : Derivable u) : AllGrown u := by
  intro n hn
  rcases mem_of_derivable h hn with ⟨kind, text, hkind, rfl⟩ | ⟨text, rfl⟩
  · exact .leaf text hkind.carriesToken
  · exact .leaf text rfl

theorem leavesAll_of_derivable {u : List Node} (h : Derivable u) : Node.leavesAll u = u := by
  induction h with
  | @value kind text h =>
    have own : (Node.leaf kind text).leaves = [.leaf kind text] :=
      Node.leaves_leaf h.carriesToken text
    simp [own]
  | operation _ _ _ hu hv => simp [Node.leaves_symbol, hu, hv]
  | parentheses _ hu => simp [Node.leaves_symbol, hu]

/-- A derivable list folds to one tree of the grammar. -/
theorem exists_tree_of_derivable {u : List Node} (h : Derivable u) :
    ∃ tree, (foldAll u).nodes = [tree] ∧ IsDerivation tree := by
  obtain ⟨tree, single, derivation, -⟩ :=
    foldAll_of_derivable (allGrown_of_derivable h) (leavesAll_of_derivable h) h
  exact ⟨tree, single, derivation⟩

theorem isOperand_of_isDerivation {n : Node} (h : IsDerivation n) : n.isOperand := by
  cases h with
  | value text h => exact h.isOperand text
  | operation => rfl
  | parentheses => rfl

/-- A tree of the grammar in parentheses is an expression with parentheses around it. -/
theorem exists_of_isParenthesized {n : Node} (h : IsDerivation n)
    (parenthesized : n.isParenthesized) :
    ∃ m, IsDerivation m ∧ n = .expression (.leaf .symbol "(") m (.leaf .symbol ")") := by
  cases h with
  | value text h => rcases h with rfl | rfl | rfl <;> cases parenthesized
  | @operation left right op _ hleft _ =>
    have opening : left.isSymbol "(" := by
      simp only [Node.expression, Node.isParenthesized, Bool.and_eq_true] at parenthesized
      exact parenthesized.1
    have role := role_of_isSymbol opening
    rw [role_of_isOperand (isOperand_of_isDerivation hleft), role_opening] at role
    cases role
  | parentheses hmiddle => exact ⟨_, hmiddle, rfl⟩

/-- **Only trees of the grammar have values.** -/
theorem isDerivation_of_evaluate {s : Store} {n : Node} (grown : Grown n) {x : Float}
    (h : (evaluate s n).result = .ok x) : IsDerivation n := by
  refine isDerivation_of_grown grown ?_
  cases grown with
  | @leaf kind value hkind =>
    cases kind with
    | number => rfl
    | float => rfl
    | identifier => rfl
    | _ => cases h
  | window => rfl

end Expression

namespace Fold

theorem Grown.eq_leaf {kind : Kind} {value : String} {children : List Node}
    (h : Grown (.mk kind value children)) (hkind : kind ≠ .expression) :
    Node.mk kind value children = .leaf kind value := by
  generalize same : Node.mk kind value children = n at h
  cases h with
  | leaf =>
    cases same
    rfl
  | window =>
    cases same
    exact absurd rfl hkind

theorem flat_leaf (kind : Kind) (value : String) :
    (Node.leaf kind value).flat = [.single (.leaf kind value)] := by
  cases kind <;> rfl

theorem Grown.length_flat_pos {n : Node} (h : Grown n) : 0 < n.flat.length := by
  induction h with
  | leaf => simp [flat_leaf]
  | window _ _ _ _ ha _ _ =>
    rw [Node.flat_expression]
    split_ifs
    · rw [List.length_append]
      omega
    · exact Nat.one_pos

/-- A grown tree laid flat is itself, or an expression in parentheses, or a chain. -/
theorem Grown.flat_cases {n : Node} (h : Grown n) :
    n.flat = [.single n] ∨ (n.isParenthesized ∧ ∃ items, n.flat = [.enclosed items])
      ∨ 3 ≤ n.flat.length := by
  cases h with
  | leaf => exact .inl (flat_leaf _ _)
  | @window level a b c fits ha hb hc =>
    right
    rw [Node.flat_expression]
    split_ifs with operator
    · right
      have lengths := And.intro ha.length_flat_pos (And.intro hb.length_flat_pos hc.length_flat_pos)
      simp only [List.length_append]
      omega
    · left
      refine ⟨?_, _, rfl⟩
      cases level with
      | parenthesis =>
        simp only [Level.fits, Bool.and_eq_true] at fits
        simp [Node.expression, Node.isParenthesized, fits.1.1, fits.2]
      | _ =>
        simp only [Level.fits, Bool.and_eq_true] at fits
        exact absurd (Expression.isSymbolAmong_operators fits.1.1) operator

theorem Grown.eq_of_flat {m n : Node} (h : Grown n) (flat : n.flat = [.single m]) : n = m := by
  rcases h.flat_cases with own | ⟨-, items, enclosed⟩ | long
  · rw [own] at flat
    simpa using flat
  · rw [enclosed] at flat
    simp at flat
  · simp [flat] at long

theorem Grown.isParenthesized_of_flat {n : Node} (h : Grown n) {items : List Item}
    (flat : n.flat = [.enclosed items]) : n.isParenthesized := by
  rcases h.flat_cases with own | ⟨parenthesized, -⟩ | long
  · rw [own] at flat
    simp at flat
  · exact parenthesized
  · simp [flat] at long

end Fold

theorem Node.kind?_of_isParenthesized {n : Node} (h : n.isParenthesized) :
    n.kind? = some .expression := by
  unfold Node.isParenthesized at h
  split at h
  · rfl
  · cases h

/-! ## 2. Assignments of the grammar -/

namespace Statement

/-- The leaves of an assignment of the grammar. -/
inductive IsAssignment : List Node → Prop
  | scalar {name : String} {u : List Node} (hu : Derivable u) :
      IsAssignment (letWord :: .leaf .identifier name :: .leaf .symbol "=" :: u)
  | element {name : String} {u v : List Node} (hu : Derivable u) (hv : Derivable v) :
      IsAssignment (letWord :: .leaf .identifier name :: .leaf .symbol "(" ::
        (u ++ .leaf .symbol ")" :: .leaf .symbol "=" :: v))

/-- The nodes of an assignment: a name, perhaps an index, a value, and what follows the value. -/
def form (name : String) (index : Option Node) (value : Node) (rest : List Node) : List Node :=
  letWord :: .leaf .identifier name :: (index.toList ++ .leaf .symbol "=" :: value :: rest)

/-- The parts of an assignment can be told from its nodes. -/
theorem form_inj {name name' : String} {index index' : Option Node} {value value' : Node}
    {rest rest' : List Node} (hindex : ∀ n ∈ index, n.kind? = some .expression)
    (hindex' : ∀ n ∈ index', n.kind? = some .expression)
    (h : form name index value rest = form name' index' value' rest') :
    index = index' ∧ value = value' ∧ rest = rest' := by
  have behind : index.toList ++ .leaf .symbol "=" :: value :: rest
      = index'.toList ++ .leaf .symbol "=" :: value' :: rest' :=
    (List.cons.inj (List.cons.inj h).2).2
  -- an index is an expression, and the equals sign is none
  cases index with
  | none =>
    cases index' with
    | none => simpa using behind
    | some n =>
      have kind := hindex' n rfl
      rw [← (List.cons.inj behind).1] at kind
      cases kind
  | some m =>
    cases index' with
    | none =>
      have kind := hindex m rfl
      rw [(List.cons.inj behind).1] at kind
      cases kind
    | some n => simpa using behind

/-! ## 3. Folding an assignment of the grammar -/

theorem inert_equals : Fold.Inert (.leaf .symbol "=") := ⟨trivial, rfl, rfl⟩

theorem nodes_foldAll_singleton {n : Node} (known : n.Known) : (foldAll [n]).nodes = [n] :=
  Fold.nodes_foldAll_of_foldOnce_eq_none (by simpa [AllKnown] using known) fun _ => rfl

/-- What folds to two nodes in some order folds to two nodes that are the same but for the
grouping. -/
theorem foldAll_of_folds_pair {nodes : List Node} {a b : Node} (known : AllKnown nodes)
    (folds : Fold.Folds nodes [a, b]) :
    ∃ m n, (foldAll nodes).nodes = [m, n] ∧ m.flat = a.flat ∧ n.flat = b.flat := by
  obtain ⟨ms, -, stand, stand'⟩ :=
    Fold.exists_marks_of_settled known folds (Fold.settled_of_length (by simp))
  have flats : (foldAll nodes).nodes.map Node.flat = [a.flat, b.flat] :=
    (Fold.map_flat_of_stands stand').trans (Fold.map_flat_of_stands stand).symm
  have two : (foldAll nodes).nodes.length = 2 := by simpa using congrArg List.length flats
  obtain ⟨m, n, pair⟩ := List.length_eq_two.mp two
  rw [pair] at flats
  exact ⟨m, n, pair, by simpa using flats⟩

/-- An expression in parentheses can be folded by itself, wherever it stands. -/
theorem folds_parentheses {u : List Node} (hu : Derivable u) :
    ∃ tree items, Fold.Folds (.leaf .symbol "(" :: (u ++ [.leaf .symbol ")"])) [tree]
      ∧ tree.flat = [.enclosed items] := by
  have grown := Expression.allGrown_of_derivable hu
  obtain ⟨tree, single, derivation⟩ := Expression.exists_tree_of_derivable hu
  have operand := Expression.isOperand_of_isDerivation derivation
  have inside : Fold.Folds u [tree] := single ▸ Fold.folds_foldAll grown.known
  have around : Fold.Folds ([.leaf .symbol "("] ++ (u ++ [.leaf .symbol ")"]))
      ([.leaf .symbol "("] ++ ([tree] ++ [.leaf .symbol ")"])) :=
    Fold.folds_append .refl (Fold.folds_append inside .refl)
  have fits : Fold.Level.parenthesis.fits (.leaf .symbol "(") tree (.leaf .symbol ")") := by
    simp [Fold.Level.fits, Node.leaf, Node.isSymbol, operand]
  have noOperator : ¬ tree.isSymbolAmong operators := by
    intro symbol
    rw [Expression.isOperand_of_isSymbolAmong symbol] at operand
    cases operand
  exact ⟨_, _, around.tail (.mk [] [] fits), by rw [Node.flat_expression, if_neg noOperator]⟩

theorem allGrown_element (name : String) {u : List Node} (hu : Derivable u) :
    AllGrown (.leaf .identifier name :: .leaf .symbol "(" :: (u ++ [.leaf .symbol ")"])) := by
  intro n hn
  rcases List.mem_cons.mp hn with rfl | hn
  · exact .leaf name rfl
  · exact Expression.allGrown_of_derivable (.parentheses hu) n hn

/-- **A name stays apart from the parentheses behind it.** -/
theorem foldAll_element (name : String) {u : List Node} (hu : Derivable u) :
    ∃ n, (foldAll (.leaf .identifier name :: .leaf .symbol "(" :: (u ++ [.leaf .symbol ")"]))).nodes
        = [.leaf .identifier name, n] ∧ n.isParenthesized := by
  have grown := allGrown_element name hu
  obtain ⟨tree, items, folds, enclosed⟩ := folds_parentheses hu
  -- folding the parentheses alone ends in two nodes
  have pair : Fold.Folds
      ([.leaf .identifier name] ++ (.leaf .symbol "(" :: (u ++ [.leaf .symbol ")"])))
      ([.leaf .identifier name] ++ [tree]) := Fold.folds_append .refl folds
  obtain ⟨m, n, nodes, hm, hn⟩ := foldAll_of_folds_pair grown.known pair
  have grownM : Grown m := Fold.allGrown_foldAll grown m (by simp [nodes])
  have grownN : Grown n := Fold.allGrown_foldAll grown n (by simp [nodes])
  have same : m = .leaf .identifier name := grownM.eq_of_flat (hm.trans (Fold.flat_leaf _ _))
  exact ⟨n, by rw [nodes, same], grownN.isParenthesized_of_flat (hn.trans enclosed)⟩

/-- The keyword and the equals sign keep what is on their sides apart. -/
theorem nodes_foldAll_around_equals {target v : List Node} (known : AllKnown target)
    (hv : AllKnown v) :
    (foldAll (letWord :: (target ++ .leaf .symbol "=" :: v))).nodes
      = letWord :: ((foldAll target).nodes ++ .leaf .symbol "=" :: (foldAll v).nodes) := by
  have all := Fold.allKnown_barrier inert_equals known hv
  rw [Fold.nodes_foldAll_cons_inert Source.inert_letWord all,
    Fold.nodes_foldAll_barrier inert_equals known hv]

theorem foldAll_around_equals {target v : List Node} (known : AllKnown target) (hv : Derivable v) :
    ∃ value, (foldAll (letWord :: (target ++ .leaf .symbol "=" :: v))).nodes
      = letWord :: ((foldAll target).nodes ++ [.leaf .symbol "=", value]) := by
  obtain ⟨value, single, -⟩ := Expression.exists_tree_of_derivable hv
  refine ⟨value, ?_⟩
  rw [nodes_foldAll_around_equals known (Expression.allGrown_of_derivable hv).known, single]

/-- **An assignment of the grammar folds to its parts**, with an index in parentheses and nothing
behind the value. -/
theorem foldAll_of_isAssignment {nodes : List Node} (h : IsAssignment nodes) :
    ∃ name index value, (foldAll nodes).nodes = form name index value []
      ∧ ∀ n ∈ index, n.isParenthesized := by
  cases h with
  | @scalar name u hu =>
    have known : (Node.leaf .identifier name).Known := trivial
    obtain ⟨value, folded⟩ :=
      @foldAll_around_equals [.leaf .identifier name] u (by simpa [AllKnown]) hu
    refine ⟨name, none, value, ?_, by simp⟩
    rw [nodes_foldAll_singleton known] at folded
    exact folded
  | @element name u v hu hv =>
    obtain ⟨value, folded⟩ := foldAll_around_equals (allGrown_element name hu).known hv
    obtain ⟨n, target, parenthesized⟩ := foldAll_element name hu
    refine ⟨name, some n, value, ?_, by simpa using parenthesized⟩
    rw [target] at folded
    simpa [form] using folded

/-! ## 4. What is accepted -/

variable {name : String} {index : Option Node} {value : Node} {statement rest : List Node}

/-- **Nodes that are accepted have the form of an assignment.** -/
theorem exists_form {s : Store} {e : Effect} (grown : AllGrown statement)
    (h : Assigns s statement e) :
    ∃ name index value rest, statement = form name index value rest ∧ IsDerivation value
      ∧ ∀ n ∈ index, n.kind? = some .expression ∧ IsDerivation n := by
  cases h with
  | @scalar name word children equals value x rest hequals hvalue =>
    have hword := (grown (.mk .statementName "LET" word) (by simp)).eq_leaf (by simp)
    have hname := (grown (.mk .identifier name children) (by simp)).eq_leaf (by simp)
    have hequals := Expression.eq_leaf_of_isSymbol (grown equals (by simp)) hequals
    refine ⟨name, none, value, rest, ?_, ?_, by simp⟩
    · rw [hword, hname, hequals]
      rfl
    · exact Expression.isDerivation_of_evaluate (grown value (by simp)) hvalue
  | @element name word children index equals value k x rest hkind hindex hequals hvalue =>
    have hword := (grown (.mk .statementName "LET" word) (by simp)).eq_leaf (by simp)
    have hname := (grown (.mk .identifier name children) (by simp)).eq_leaf (by simp)
    have hequals := Expression.eq_leaf_of_isSymbol (grown equals (by simp)) hequals
    have derivation := Expression.isDerivation_of_evaluate (grown index (by simp)) hindex
    refine ⟨name, some index, value, rest, ?_, ?_, by simpa using ⟨hkind, derivation⟩⟩
    · rw [hword, hname, hequals]
      rfl
    · exact Expression.isDerivation_of_evaluate (grown value (by simp)) hvalue

theorem leavesAll_form :
    Node.leavesAll (form name index value rest)
      = letWord :: .leaf .identifier name :: (Node.leavesAll index.toList
          ++ .leaf .symbol "=" :: (value.leaves ++ Node.leavesAll rest)) := by
  have word : letWord.leaves = [letWord] := Node.leaves_leaf rfl "LET"
  have own : (Node.leaf .identifier name).leaves = [.leaf .identifier name] :=
    Node.leaves_leaf rfl name
  simp [form, word, own, Node.leaves_symbol]

/-- The leaves of a form with an index in parentheses and nothing behind the value. -/
theorem isAssignment_form (hvalue : IsDerivation value)
    (hindex : ∀ n ∈ index, IsDerivation n ∧ n.isParenthesized) :
    IsAssignment (Node.leavesAll (form name index value [])) := by
  rw [leavesAll_form]
  cases index with
  | none => simpa using IsAssignment.scalar (Expression.derivable_leaves hvalue)
  | some n =>
    obtain ⟨derivation, parenthesized⟩ := hindex n rfl
    obtain ⟨m, hm, rfl⟩ := Expression.exists_of_isParenthesized derivation parenthesized
    simpa [Node.leaves_symbol] using
      IsAssignment.element (Expression.derivable_leaves hm) (Expression.derivable_leaves hvalue)

end Statement

namespace Source.Line

theorem isNumbered_eq_false {l : Line} (h : ∀ n ∈ l.nodes, n.kind? ≠ some .lineNumber) :
    l.isNumbered = false := by
  unfold isNumbered
  split
  · rename_i number children rest hnodes
    exact absurd rfl (h (.mk .lineNumber number children) (by simp [hnodes]))
  · rfl

/-- **What a line says is a folded statement**, with its keyword if the line has a number. -/
theorem exists_statementNodes {text : String} {l : Line} (h : l ∈ lines text) :
    ∃ ts, l.statement = statementNodes ts := by
  rw [lines_eq] at h
  obtain ⟨ts, -, rfl⟩ := List.mem_map.mp h
  cases ts with
  | nil =>
    have nothing : (foldAll []).nodes = [] :=
      Fold.nodes_foldAll_of_foldOnce_eq_none (by simp [AllKnown]) fun _ => rfl
    refine ⟨[], ?_⟩
    rw [statement, isNumbered, nodes_readLine_nil, statementNodes, List.map_nil, nothing]
    rfl
  | cons t ts =>
    by_cases first : kindOf true t = .lineNumber
    · obtain ⟨us, -, completion⟩ := exists_completed ts
      have nodes := nodes_readLine_numbered first ts
      refine ⟨us, ?_⟩
      rw [completion, statement, isNumbered, nodes, classify, first]
      rfl
    · have nodes := nodes_readLine_unnumbered first ts
      refine ⟨t :: ts, ?_⟩
      rw [statement, isNumbered_eq_false, nodes]
      · rfl
      · intro n hn
        rw [nodes] at hn
        exact kind?_ne_lineNumber hn

end Source.Line

open Statement

theorem Interpreter.exists_of_accepted {out : Stream} {i : Interpreter} {statement : List Node}
    (accepted : (i.assign out statement).answer = none) :
    ∃ e, Assigns i.store statement e := by
  unfold assign carryOut at accepted
  split at accepted
  · cases accepted
  · rename_i e worked
    exact ⟨e, assigns_of_assignment worked⟩

/-- **The form of an accepted assignment.**  Whatever the state, an assignment read from a text and
accepted names a variable, perhaps with an index, and has an expression as its value.  It is one of
the grammar iff nothing follows the value and the index, if there is one, is in parentheses. -/
theorem Interpreter.form_of_accepted_assignment {text : String} {l : Line}
    (read : l ∈ Source.lines text) (out : Stream) (i : Interpreter)
    (accepted : (i.assign out l.statement).answer = none) :
    ∃ name index value rest, l.statement = form name index value rest ∧ IsDerivation value
      ∧ (∀ n ∈ index, n.kind? = some .expression ∧ IsDerivation n)
      ∧ (IsAssignment (Node.leavesAll l.statement)
          ↔ rest = [] ∧ ∀ n ∈ index, n.isParenthesized) := by
  obtain ⟨ts, folded⟩ := Source.Line.exists_statementNodes read
  have leaves := Source.allGrown_map_classify ts
  have grown : AllGrown l.statement := folded ▸ Fold.allGrown_foldAll leaves
  obtain ⟨e, asked⟩ := exists_of_accepted accepted
  obtain ⟨name, index, value, rest, hform, hvalue, hindex⟩ := exists_form grown asked
  refine ⟨name, index, value, rest, hform, hvalue, hindex, ⟨?_, ?_⟩⟩
  · intro assignment
    rw [folded, statementNodes, Fold.leavesAll_foldAll leaves.known,
      Source.leavesAll_map_classify] at assignment
    obtain ⟨name', index', value', hfolded, parenthesized⟩ := foldAll_of_isAssignment assignment
    have same : form name index value rest = form name' index' value' [] :=
      hform.symm.trans (folded.trans hfolded)
    obtain ⟨rfl, -, rfl⟩ := form_inj (fun n hn => (hindex n hn).1)
      (fun n hn => Node.kind?_of_isParenthesized (parenthesized n hn)) same
    exact ⟨rfl, parenthesized⟩
  · rintro ⟨rfl, parenthesized⟩
    rw [hform]
    exact isAssignment_form hvalue fun n hn => ⟨(hindex n hn).2, parenthesized n hn⟩

/-- An assignment to an element, without blanks. -/
theorem Interpreter.form_of_accepted_assignment_element :
    let index : Node := .expression (.leaf .symbol "(") (.leaf .number "2") (.leaf .symbol ")")
    let l : Line := ⟨form "A" (some index) (.leaf .number "5") []⟩
    l ∈ Source.lines "LET A(2)=5" ∧ ((new 3).assign {} l.statement).answer = none
      ∧ IsAssignment (Node.leavesAll l.statement) := by
  intro index₀ l
  have read : Source.lines "LET A(2)=5" = [l] := by cbv
  have member : l ∈ Source.lines "LET A(2)=5" := by simp [read]
  have accepted : ((new 3).assign {} l.statement).answer = none :=
    Option.isNone_iff_eq_none.mp (by decide +kernel)
  obtain ⟨name, index, value, rest, hform, -, hindex, iff⟩ :=
    form_of_accepted_assignment member {} (new 3) accepted
  have expression : ∀ n ∈ some index₀, n.kind? = some .expression := by
    intro n hn
    cases hn
    rfl
  obtain ⟨rfl, -, rfl⟩ := form_inj (fun n hn => (hindex n hn).1) expression hform.symm
  refine ⟨member, accepted, iff.mpr ⟨rfl, ?_⟩⟩
  intro n hn
  cases hn
  rfl

/-- An operator without a right operand, and an index without parentheses: both are accepted, and
neither is an assignment of the grammar. -/
theorem Interpreter.accepted_beyond_grammar :
    (∃ l ∈ Source.lines "LET A = 1 +", ((new 3).assign {} l.statement).answer = none
        ∧ ¬ IsAssignment (Node.leavesAll l.statement))
      ∧ ∃ l ∈ Source.lines "LET A 1 + 1 = 5", ((new 3).assign {} l.statement).answer = none
        ∧ ¬ IsAssignment (Node.leavesAll l.statement) := by
  constructor
  · let l : Line := ⟨form "A" none (.leaf .number "1") [.leaf .symbol "+"]⟩
    have read : Source.lines "LET A = 1 +" = [l] := by cbv
    have accepted : ((new 3).assign {} l.statement).answer = none :=
      Option.isNone_iff_eq_none.mp (by decide +kernel)
    refine ⟨l, by simp [read], accepted, ?_⟩
    intro assignment
    generalize leaves : Node.leavesAll l.statement = nodes at assignment
    cases assignment with
    | @scalar name u hu =>
      have values : [.leaf .number "1", .leaf .symbol "+"] = u :=
        (List.cons.inj (List.cons.inj (List.cons.inj leaves).2).2).2
      have reads := Expression.reads_derivable hu 0 []
      rw [← values] at reads
      cases reads
    | element =>
      have sign : Node.leaf .symbol "=" = .leaf .symbol "(" :=
        (List.cons.inj (List.cons.inj (List.cons.inj leaves).2).2).1
      simp [Node.leaf] at sign
  · let sum : Node := .expression (.leaf .number "1") (.leaf .symbol "+") (.leaf .number "1")
    let l : Line := ⟨form "A" (some sum) (.leaf .number "5") []⟩
    have read : Source.lines "LET A 1 + 1 = 5" = [l] := by cbv
    have accepted : ((new 3).assign {} l.statement).answer = none :=
      Option.isNone_iff_eq_none.mp (by decide +kernel)
    refine ⟨l, by simp [read], accepted, ?_⟩
    intro assignment
    generalize leaves : Node.leavesAll l.statement = nodes at assignment
    cases assignment with
    | scalar => cases leaves
    | element => cases leaves

end LineBasic
