/-
# Lines as numbers and statements

A line is read in two ways that have to agree: with a number in front, where the number can be in
no window and the statement behind it folds as it does alone (`nodes_readLine_numbered`), and
without one (`nodes_readLine_unnumbered`).  The only difference between the two is the `LET` that a
numbered assignment gets if it left it out (`completed`).
-/
import LineBasic.Proofs.Leaves
import Mathlib.Data.List.TakeWhile

namespace LineBasic.Source

/-! ## 1. The lines of a token list -/

theorem lines_eq (source : String) :
    lines source = (segments (Token.tokens source)).map fun ts => (readLine ts).value := by
  simp [lines, read, readTokens, Token.read_none, Token.tokens, Function.comp_def]

theorem segments_of_notMem {ts : List String} (h : Token.newline ∉ ts) (hne : ts ≠ []) :
    segments ts = [ts] := by
  induction ts with
  | nil => exact absurd rfl hne
  | cons t ts ih =>
    obtain ⟨ht, hts⟩ := not_or.mp (mt List.mem_cons.mpr h)
    rw [segments, if_neg (Ne.symm ht)]
    cases ts with
    | nil => rfl
    | cons u us => rw [ih hts (by simp)]

/-- A newline ends the line before it. -/
theorem segments_append_newline {ts : List String} (h : Token.newline ∉ ts) (us : List String) :
    segments (ts ++ Token.newline :: us) = ts :: segments us := by
  induction ts with
  | nil => simp [segments]
  | cons t ts ih =>
    obtain ⟨ht, hts⟩ := not_or.mp (mt List.mem_cons.mpr h)
    rw [List.cons_append, segments, if_neg (Ne.symm ht), ih hts]

/-- A line holds tokens of the list, and no newline. -/
theorem mem_of_mem_segments {ts line : List String} (h : line ∈ segments ts) :
    ∀ t ∈ line, t ∈ ts ∧ t ≠ Token.newline := by
  induction ts generalizing line with
  | nil => cases h
  | cons t ts ih =>
    intro u hu
    rw [segments] at h
    split_ifs at h with ht
    · rcases List.mem_cons.mp h with rfl | h
      · cases hu
      · exact ⟨by simp [(ih h u hu).1], (ih h u hu).2⟩
    · split at h
      · rw [List.mem_singleton.mp h, List.mem_singleton] at hu
        subst hu
        exact ⟨by simp, ht⟩
      · rename_i first rest hs
        rw [hs] at ih
        rcases List.mem_cons.mp h with rfl | h
        · rcases List.mem_cons.mp hu with rfl | hu
          · exact ⟨by simp, ht⟩
          · have := ih (by simp) u hu
            exact ⟨by simp [this.1], this.2⟩
        · have := ih (List.mem_cons_of_mem _ h) u hu
          exact ⟨by simp [this.1], this.2⟩

/-! ## 2. The first token of a line -/

theorem kindOf_false_ne_lineNumber (t : String) : kindOf false t ≠ .lineNumber := by
  unfold kindOf
  split_ifs <;> simp_all

/-- Unless it is a line number, the first token of a line is classified as any other. -/
theorem classify_true_eq {t : String} (h : kindOf true t ≠ .lineNumber) :
    classify true t = classify false t := by
  unfold classify
  congr 1
  unfold kindOf at h ⊢
  split_ifs at h ⊢ <;> simp_all

/-- A token of digits begins with no quote. -/
theorem isStringLiteral_of_isAllDigits {t : String} (h : isAllDigits t) :
    isStringLiteral t = false := by
  unfold isAllDigits at h
  unfold isStringLiteral
  cases hcs : t.toList with
  | nil => rfl
  | cons c cs =>
    rw [hcs] at h
    simp only [List.isEmpty_cons, List.all_cons, Bool.not_false, Bool.true_and,
      Bool.and_eq_true] at h
    have hc : c ≠ '"' := by
      rintro rfl
      exact absurd h.1 (by decide)
    simp [hc]

theorem kindOf_true_of_isAllDigits {t : String} (h : isAllDigits t) :
    kindOf true t = .lineNumber := by
  simp [kindOf, isStringLiteral_of_isAllDigits h, h]

theorem kindOf_true_ne_lineNumber {t : String} (h : isAllDigits t = false) :
    kindOf true t ≠ .lineNumber := by
  unfold kindOf
  split_ifs <;> simp_all

/-! ## 3. Reading a line -/

/-- The nodes of a statement. -/
def statementNodes (tokens : List String) : List Node :=
  (Fold.foldAll (tokens.map (classify false))).nodes

/-- A statement with the `LET` it may have left out. -/
def completed : List Node → List Node
  | [] => []
  | n :: rest => if n.kind? = some .identifier then letWord :: n :: rest else n :: rest

theorem nodes_readLine (tokens : List String) :
    (readLine tokens).value.nodes = withLet (Fold.foldAll (leaves tokens)).nodes := rfl

theorem nodes_readLine_nil : (readLine []).value.nodes = [] := by
  have nothing : (Fold.foldAll []).nodes = [] :=
    Fold.nodes_foldAll_of_foldOnce_eq_none (by simp [Fold.AllKnown]) fun _ => rfl
  rw [nodes_readLine, leaves, nothing]
  rfl

theorem inert_lineNumber {t : String} (h : kindOf true t = .lineNumber) :
    Fold.Inert (classify true t) := by
  rw [classify, h]
  exact ⟨trivial, rfl, rfl⟩

theorem withLet_numbered {n : Node} (h : n.kind? = some .lineNumber) (rest : List Node) :
    withLet (n :: rest) = n :: completed rest := by
  cases rest with
  | nil => simp [withLet, lacksLet, completed]
  | cons m rest =>
    by_cases hm : m.kind? = some .identifier
    · simp [withLet, lacksLet, completed, h, hm]
    · simp [withLet, lacksLet, completed, h, hm]

/-- A number in front of a statement is passed over. -/
theorem nodes_foldAll_leaves_numbered {t : String} (h : kindOf true t = .lineNumber)
    (ts : List String) :
    (Fold.foldAll (leaves (t :: ts))).nodes = classify true t :: statementNodes ts :=
  Fold.nodes_foldAll_cons_inert (inert_lineNumber h) (allGrown_map_classify ts).known

/-- **A numbered line** is its number and its statement, which folds as it does alone. -/
theorem nodes_readLine_numbered {t : String} (h : kindOf true t = .lineNumber)
    (ts : List String) :
    (readLine (t :: ts)).value.nodes = classify true t :: completed (statementNodes ts) := by
  rw [nodes_readLine, nodes_foldAll_leaves_numbered h, withLet_numbered (by rw [classify, h]; rfl)]

/-- No node of a statement is a line number. -/
theorem kind?_ne_lineNumber {ts : List String} {n : Node} (h : n ∈ statementNodes ts) :
    n.kind? ≠ some .lineNumber := by
  have start : ∀ n ∈ ts.map (classify false), n.kind? ≠ some .lineNumber := by
    intro n hn
    obtain ⟨t, -, rfl⟩ := List.mem_map.mp hn
    simpa [classify, Node.leaf, Node.kind?] using kindOf_false_ne_lineNumber t
  refine (Fold.foldAll_induction (P := fun ns => ∀ n ∈ ns, n.kind? ≠ some .lineNumber) ?_
    (allGrown_map_classify ts).known start).2 n h
  rintro _ _ - ⟨before, after, -⟩ hn m hm
  rcases List.mem_append.mp hm with hm | hm
  · exact hn m (by simp [hm])
  · rcases List.mem_cons.mp hm with rfl | hm
    · simp [Node.expression, Node.kind?]
    · exact hn m (by simp [hm])

/-- Without a number in front all tokens are classified alike. -/
theorem leaves_unnumbered {t : String} (h : kindOf true t ≠ .lineNumber) (ts : List String) :
    leaves (t :: ts) = (t :: ts).map (classify false) := by
  rw [leaves, classify_true_eq h, List.map_cons]

/-- **A line without a number** is a statement. -/
theorem nodes_readLine_unnumbered {t : String} (h : kindOf true t ≠ .lineNumber)
    (ts : List String) : (readLine (t :: ts)).value.nodes = statementNodes (t :: ts) := by
  rw [nodes_readLine, leaves_unnumbered h]
  show withLet (statementNodes (t :: ts)) = _
  cases hs : statementNodes (t :: ts) with
  | nil => rfl
  | cons n rest =>
    have hn : n.kind? ≠ some .lineNumber := kind?_ne_lineNumber (by rw [hs]; simp)
    cases rest <;> simp [withLet, lacksLet, hn]

/-- A statement with a token has a node. -/
theorem statementNodes_ne_nil {ts : List String} (h : ts ≠ []) : statementNodes ts ≠ [] := by
  have same := Fold.leavesAll_foldAll (allGrown_map_classify ts).known
  intro hnil
  rw [show (Fold.foldAll (ts.map (classify false))).nodes = [] from hnil,
    leavesAll_map_classify] at same
  exact h (by simpa using same.symm)

theorem completed_ne_nil {nodes : List Node} (h : nodes ≠ []) : completed nodes ≠ [] := by
  cases nodes with
  | nil => exact absurd rfl h
  | cons n rest =>
    rw [completed]
    split_ifs <;> simp

theorem known_statementNodes {ts : List String} {n : Node} (h : n ∈ statementNodes ts) :
    n.Known :=
  (Fold.allGrown_foldAll (allGrown_map_classify ts)).known n h

/-! ## 4. Expressions -/

/-- An expression is a statement without newlines that folds to one node. -/
theorem readExpression_complete_iff {text : String} {node : Node} :
    (readExpression text).value = ⟨node, true⟩ ↔
      Token.newline ∉ Token.tokens text ∧ statementNodes (Token.tokens text) = [node] := by
  have scanned : (Token.read text.toList none).lexemes.map (·.text) = Token.tokens text := by
    rw [Token.read_none, Token.tokens]
  simp only [readExpression, scanned]
  by_cases newline : Token.newline ∈ Token.tokens text
  · simp [newline]
  · have all : (Token.tokens text).takeWhile (· ≠ Token.newline) = Token.tokens text := by
      rw [List.takeWhile_eq_self_iff]
      intro t ht
      have other : t ≠ Token.newline := fun same => newline (same ▸ ht)
      simpa using other
    rw [if_neg (by simpa using newline), all]
    have folded : (Fold.foldAll ((Token.tokens text).map (classify false))).nodes
        = statementNodes (Token.tokens text) := rfl
    simp only [folded, newline, not_false_eq_true, true_and]
    split
    · rename_i single
      simp [single]
    · rename_i several
      simpa using several node

end LineBasic.Source
