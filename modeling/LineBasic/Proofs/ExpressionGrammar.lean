/-
# Folding accepts exactly the expressions

The grammar of expressions is

    E ::= value | E op E | ( E )

where a value is a number or an identifier and `op` is one of `+ - * / ^`.  It is ambiguous, and
folding picks one of the trees.  That folding is greedy does no harm:

* **A fold never leaves the grammar, in either direction.**  A reader that only counts open
  parentheses and knows whether an operand is due (`reads`) accepts a list before a fold iff it
  accepts the list after it (`reads_foldStep`), because in both lists the same thing has happened
  when the window is over: one operand has been read.
* **An accepted list of more than one node has a window** (`foldStep_of_reads`).  Behind the last
  opening parenthesis there is an operand, and what follows it is a closing parenthesis or an
  operator with the next operand.

As folding stops only where there is no window, an accepted list ends as one node.  Conversely a
node that has grown and is an operand is a tree of the grammar (`isDerivation_of_grown`).
-/
import LineBasic.Proofs.Leaves

namespace LineBasic

/-! ## 1. The grammar -/

namespace Expression

/-- The operators. -/
def operators : List String := ["+", "-", "*", "/", "^"]

/-- The kind of a value that is a leaf. -/
def IsValueKind (kind : Kind) : Prop := kind = .number ∨ kind = .float ∨ kind = .identifier

theorem IsValueKind.carriesToken {kind : Kind} (h : IsValueKind kind) : kind.carriesToken := by
  rcases h with rfl | rfl | rfl <;> rfl

theorem IsValueKind.isOperand {kind : Kind} (h : IsValueKind kind) (text : String) :
    (Node.leaf kind text).isOperand := by
  rcases h with rfl | rfl | rfl <;> rfl

/-- The sequence of leaves can be derived from the grammar. -/
inductive Derivable : List Node → Prop
  | value {kind : Kind} (text : String) (h : IsValueKind kind) : Derivable [.leaf kind text]
  | operation {u v : List Node} {op : String} (hop : op ∈ operators) (hu : Derivable u)
      (hv : Derivable v) : Derivable (u ++ .leaf .symbol op :: v)
  | parentheses {u : List Node} (hu : Derivable u) :
      Derivable (.leaf .symbol "(" :: (u ++ [.leaf .symbol ")"]))

/-- The tree is one of the grammar: every inner node is `[E, op, E]` or `[(, E, )]`. -/
inductive IsDerivation : Node → Prop
  | value {kind : Kind} (text : String) (h : IsValueKind kind) : IsDerivation (.leaf kind text)
  | operation {left right : Node} {op : String} (hop : op ∈ operators)
      (hleft : IsDerivation left) (hright : IsDerivation right) :
      IsDerivation (.expression left (.leaf .symbol op) right)
  | parentheses {middle : Node} (hmiddle : IsDerivation middle) :
      IsDerivation (.expression (.leaf .symbol "(") middle (.leaf .symbol ")"))

/-- The leaves of a tree of the grammar can be derived. -/
theorem derivable_leaves {n : Node} (h : IsDerivation n) : Derivable n.leaves := by
  induction h with
  | value text h =>
    rw [Node.leaves_leaf h.carriesToken]
    exact .value text h
  | operation hop _ _ hleft hright =>
    rw [Node.leaves_expression, Node.leaves_leaf rfl]
    exact .operation hop hleft hright
  | parentheses _ hmiddle =>
    rw [Node.leaves_expression, Node.leaves_leaf rfl, Node.leaves_leaf rfl]
    exact .parentheses hmiddle

/-- What is derived consists of values and symbols. -/
theorem mem_of_derivable {u : List Node} (h : Derivable u) {n : Node} (hn : n ∈ u) :
    (∃ kind text, IsValueKind kind ∧ n = .leaf kind text) ∨ ∃ text, n = .leaf .symbol text := by
  induction h with
  | @value kind text h => exact .inl ⟨kind, text, h, List.mem_singleton.mp hn⟩
  | @operation u v op _ _ _ hu hv =>
    rcases List.mem_append.mp hn with hn | hn
    · exact hu hn
    · rcases List.mem_cons.mp hn with rfl | hn
      · exact .inr ⟨op, rfl⟩
      · exact hv hn
  | parentheses _ hu =>
    rcases List.mem_cons.mp hn with rfl | hn
    · exact .inr ⟨"(", rfl⟩
    · rcases List.mem_append.mp hn with hn | hn
      · exact hu hn
      · exact .inr ⟨")", List.mem_singleton.mp hn⟩

/-! ## 2. Grown operands are trees of the grammar -/

theorem eq_leaf_of_isSymbolAmong {n : Node} (h : Fold.Grown n) {texts : List String}
    (hn : n.isSymbolAmong texts) : ∃ text ∈ texts, n = .leaf .symbol text := by
  cases h with
  | @leaf kind value h =>
    cases kind <;> simp only [Node.leaf, Node.isSymbolAmong] at hn <;> try cases hn
    exact ⟨value, by simpa using hn, rfl⟩
  | window => cases hn

theorem eq_leaf_of_isSymbol {n : Node} (h : Fold.Grown n) {text : String}
    (hn : n.isSymbol text) : n = .leaf .symbol text := by
  cases h with
  | @leaf kind value h =>
    cases kind <;> simp only [Node.leaf, Node.isSymbol] at hn <;> try cases hn
    rw [of_decide_eq_true hn]
  | window => cases hn

/-- An operator window has an operator of the grammar in its middle. -/
theorem mem_operators {level : Fold.Level} {text : String} (h : text ∈ level.operators) :
    text ∈ operators := by
  cases level <;> simp_all [Fold.Level.operators, operators] <;> tauto

theorem isValueKind_of_isOperand {kind : Kind} {text : String} (h : kind.carriesToken)
    (operand : (Node.leaf kind text).isOperand) : IsValueKind kind := by
  cases kind with
  | number => exact .inl rfl
  | float => exact .inr (.inl rfl)
  | identifier => exact .inr (.inr rfl)
  | expression => cases h
  | _ => cases operand

theorem isDerivation_of_grown {n : Node} (h : Fold.Grown n) (operand : n.isOperand) :
    IsDerivation n := by
  induction h with
  | leaf value h => exact .value value (isValueKind_of_isOperand h operand)
  | @window level a b c fits ha hb hc iha ihb ihc =>
    cases level with
    | parenthesis =>
      simp only [Fold.Level.fits, Bool.and_eq_true] at fits
      rw [eq_leaf_of_isSymbol ha fits.1.1, eq_leaf_of_isSymbol hc fits.2]
      exact .parentheses (ihb fits.1.2)
    | _ =>
      simp only [Fold.Level.fits, Bool.and_eq_true] at fits
      obtain ⟨op, hop, rfl⟩ := eq_leaf_of_isSymbolAmong hb fits.1.1
      exact .operation (mem_operators hop) (iha fits.1.2) (ihc fits.2)

/-! ## 3. A reader that counts -/

/-- What a node can do in an expression. -/
inductive Role where
  | operand
  | operator
  | opening
  | closing
  | other
  deriving DecidableEq

/-- The role of a node. -/
def role (n : Node) : Role :=
  if n.isOperand then .operand
  else if n.isSymbolAmong operators then .operator
  else if n.isSymbol "(" then .opening
  else if n.isSymbol ")" then .closing
  else .other

/-- Reads roles up to the end of an expression, with `depth` parentheses open; `due` says that an
operand has to come next. -/
def reads : Bool → Nat → List Role → Bool
  | true, depth, .operand :: rest => reads false depth rest
  | true, depth, .opening :: rest => reads true (depth + 1) rest
  | false, depth, .operator :: rest => reads true depth rest
  | false, depth + 1, .closing :: rest => reads false depth rest
  | false, 0, [] => true
  | _, _, _ => false

/-- A window is an operator between two operands, or an operand in parentheses. -/
inductive IsWindow : Role → Role → Role → Prop
  | operation : IsWindow .operand .operator .operand
  | parentheses : IsWindow .opening .operand .closing

theorem role_of_isOperand {n : Node} (h : n.isOperand) : role n = .operand := by
  simp [role, h]

/-- A symbol is no operand. -/
theorem isOperand_of_isSymbolAmong {n : Node} {texts : List String} (h : n.isSymbolAmong texts) :
    n.isOperand = false := by
  unfold Node.isSymbolAmong at h
  split at h
  · rfl
  · cases h

theorem role_of_isSymbolAmong {n : Node} (h : n.isSymbolAmong operators) :
    role n = .operator := by
  simp [role, h, isOperand_of_isSymbolAmong h]

theorem role_of_isSymbol {n : Node} {text : String} (h : n.isSymbol text) :
    role n = role (.leaf .symbol text) := by
  unfold Node.isSymbol at h
  split at h
  · rw [← of_decide_eq_true h]
    rfl
  · cases h

theorem role_opening : role (.leaf .symbol "(") = .opening := by decide

theorem role_closing : role (.leaf .symbol ")") = .closing := by decide

theorem isSymbolAmong_operators {n : Node} {level : Fold.Level}
    (h : n.isSymbolAmong level.operators) : n.isSymbolAmong operators := by
  unfold Node.isSymbolAmong at h ⊢
  split at h
  · simp only [List.contains_eq_mem, decide_eq_true_eq] at h ⊢
    exact mem_operators h
  · cases h

/-- The nodes of a window have the roles of one. -/
theorem isWindow_of_fits {level : Fold.Level} {a b c : Node} (h : level.fits a b c) :
    IsWindow (role a) (role b) (role c) := by
  cases level with
  | parenthesis =>
    simp only [Fold.Level.fits, Bool.and_eq_true] at h
    rw [role_of_isSymbol h.1.1, role_opening, role_of_isOperand h.1.2, role_of_isSymbol h.2,
      role_closing]
    exact .parentheses
  | _ =>
    simp only [Fold.Level.fits, Bool.and_eq_true] at h
    rw [role_of_isOperand h.1.2, role_of_isOperand h.2,
      role_of_isSymbolAmong (isSymbolAmong_operators h.1.1)]
    exact .operation

/-- Wherever a window stands, the reader goes on as it does after one operand. -/
theorem reads_window {x y z : Role} (h : IsWindow x y z) (due : Bool) (depth : Nat)
    (before after : List Role) :
    reads due depth (before ++ x :: y :: z :: after)
      = reads due depth (before ++ .operand :: after) := by
  induction before generalizing due depth with
  | nil => cases h <;> cases due <;> simp [reads]
  | cons r before ih =>
    cases due <;> cases r <;> cases depth <;> simp [reads, ih]

theorem reads_foldStep {nodes nodes' : List Node} (h : Fold.FoldStep nodes nodes') (due : Bool)
    (depth : Nat) : reads due depth (nodes'.map role) = reads due depth (nodes.map role) := by
  obtain ⟨before, after, fits⟩ := h
  simp only [List.map_append, List.map_cons]
  rw [reads_window (isWindow_of_fits fits), role_of_isOperand (Node.isOperand_expression _ _ _)]

/-- A derivable sequence is read as one operand. -/
theorem reads_derivable {u : List Node} (h : Derivable u) (depth : Nat) (rest : List Role) :
    reads true depth (u.map role ++ rest) = reads false depth rest := by
  induction h generalizing depth rest with
  | @value kind text h =>
    have operand : role (.leaf kind text) = .operand :=
      role_of_isOperand (by rcases h with rfl | rfl | rfl <;> rfl)
    simp [operand, reads]
  | @operation u v op hop _ _ hu hv =>
    have operator : role (.leaf .symbol op) = .operator :=
      role_of_isSymbolAmong (by simpa [Node.isSymbolAmong, Node.leaf] using hop)
    simp [operator, hu, hv, reads]
  | parentheses _ hu => simp [role_opening, role_closing, hu, reads]

/-! ## 4. Folding does not get stuck -/

theorem isOperand_of_role {n : Node} (h : role n = .operand) : n.isOperand := by
  unfold role at h
  split_ifs at h with ho
  exact ho

theorem isSymbolAmong_of_role {n : Node} (h : role n = .operator) :
    n.isSymbolAmong operators := by
  unfold role at h
  split_ifs at h with _ hs
  exact hs

theorem isSymbol_of_role_opening {n : Node} (h : role n = .opening) : n.isSymbol "(" := by
  unfold role at h
  split_ifs at h with _ _ hs
  exact hs

theorem isSymbol_of_role_closing {n : Node} (h : role n = .closing) : n.isSymbol ")" := by
  unfold role at h
  split_ifs at h with _ _ _ hs
  exact hs

/-- Every operator belongs to a level. -/
theorem exists_level_of_mem_operators {text : String} (h : text ∈ operators) :
    ∃ level : Fold.Level, level ≠ .parenthesis ∧ text ∈ level.operators := by
  simp only [operators, List.mem_cons, List.not_mem_nil, or_false] at h
  rcases h with rfl | rfl | rfl | rfl | rfl
  · exact ⟨.sum, by decide, by decide⟩
  · exact ⟨.sum, by decide, by decide⟩
  · exact ⟨.product, by decide, by decide⟩
  · exact ⟨.product, by decide, by decide⟩
  · exact ⟨.power, by decide, by decide⟩

theorem exists_level_of_role {n : Node} (h : role n = .operator) :
    ∃ level : Fold.Level, level ≠ .parenthesis ∧ n.isSymbolAmong level.operators := by
  have hn := isSymbolAmong_of_role h
  unfold Node.isSymbolAmong at hn ⊢
  split at hn
  · simp only [List.contains_eq_mem, decide_eq_true_eq] at hn ⊢
    exact exists_level_of_mem_operators hn
  · cases hn

/-- Nodes with the roles of a window are a window of some level. -/
theorem exists_fits_of_isWindow {a b c : Node} (h : IsWindow (role a) (role b) (role c)) :
    ∃ level : Fold.Level, level.fits a b c := by
  generalize hx : role a = x at h
  generalize hy : role b = y at h
  generalize hz : role c = z at h
  cases h with
  | operation =>
    obtain ⟨level, hlevel, hb⟩ := exists_level_of_role hy
    refine ⟨level, ?_⟩
    cases level <;> simp_all [Fold.Level.fits, isOperand_of_role]
  | parentheses =>
    refine ⟨.parenthesis, ?_⟩
    simp [Fold.Level.fits, isOperand_of_role hy, isSymbol_of_role_opening hx,
      isSymbol_of_role_closing hz]

theorem foldStep_of_isWindow {a b c : Node} (rest : List Node)
    (h : IsWindow (role a) (role b) (role c)) :
    Fold.FoldStep (a :: b :: c :: rest) (.expression a b c :: rest) := by
  obtain ⟨level, fits⟩ := exists_fits_of_isWindow h
  exact .mk [] rest fits

/-- **There is something to fold.**  A list that is read from where an operand is due is that
operand alone, or has a window, or begins with an operand that a parenthesis closes. -/
theorem foldStep_of_reads {nodes : List Node} {depth : Nat}
    (h : reads true depth (nodes.map role)) :
    (∃ n, nodes = [n] ∧ role n = .operand) ∨ (∃ nodes', Fold.FoldStep nodes nodes') ∨
      ∃ n m rest, nodes = n :: m :: rest ∧ role n = .operand ∧ role m = .closing := by
  match nodes with
  | [] => cases h
  | n :: rest =>
    rw [List.map_cons] at h
    generalize hn : role n = r at h
    cases r with
    | operand =>
      match rest with
      | [] => exact .inl ⟨n, rfl, hn⟩
      | m :: rest =>
        rw [List.map_cons, reads] at h
        generalize hm : role m = r at h
        cases r with
        | operator =>
          rw [reads] at h
          -- the operand after the operator ends the window, whatever follows it
          rcases foldStep_of_reads h with ⟨k, rfl, hk⟩ | ⟨nodes', step⟩ | ⟨k, l, rest, rfl, hk, -⟩
          · exact .inr (.inl ⟨_, foldStep_of_isWindow [] (by rw [hn, hm, hk]; exact .operation)⟩)
          · exact .inr (.inl ⟨_, (step.cons m).cons n⟩)
          · exact .inr (.inl ⟨_, foldStep_of_isWindow _ (by rw [hn, hm, hk]; exact .operation)⟩)
        | closing => exact .inr (.inr ⟨n, m, rest, rfl, hn, hm⟩)
        | _ => cases depth <;> cases h
    | opening =>
      rw [reads] at h
      rcases foldStep_of_reads h with ⟨k, rfl, hk⟩ | ⟨nodes', step⟩ | ⟨k, l, rest, rfl, hk, hl⟩
      · simp [hk, reads] at h
      · exact .inr (.inl ⟨_, step.cons n⟩)
      · exact .inr (.inl ⟨_, foldStep_of_isWindow _ (by rw [hn, hk, hl]; exact .parentheses)⟩)
    | _ => cases h

/-- A list without windows that is read to its end is one operand. -/
theorem eq_singleton_of_reads {nodes : List Node} (h : reads true 0 (nodes.map role))
    (settled : Fold.Settled nodes) : ∃ n, nodes = [n] ∧ n.isOperand := by
  rcases foldStep_of_reads h with ⟨n, rfl, hn⟩ | ⟨nodes', step⟩ | ⟨n, m, rest, rfl, hn, hm⟩
  · exact ⟨n, rfl, isOperand_of_role hn⟩
  · exact absurd step (settled nodes')
  · simp [hn, hm, reads] at h

/-! ## 5. Folding classified tokens -/

open Source (classify)

/-- A derivable list folds to one tree of the grammar with that list as its leaves. -/
theorem foldAll_of_derivable {nodes : List Node} (grown : Fold.AllGrown nodes)
    (leaves : Node.leavesAll nodes = nodes) (h : Derivable nodes) :
    ∃ tree, (Fold.foldAll nodes).nodes = [tree] ∧ IsDerivation tree ∧ tree.leaves = nodes := by
  have start : reads true 0 (nodes.map role) := by
    rw [← List.append_nil (nodes.map role), reads_derivable h]
    rfl
  have read := (Fold.foldAll_induction (P := fun ns => reads true 0 (ns.map role))
    (fun _ _ _ step read => (reads_foldStep step true 0).trans read) grown.known start).2
  obtain ⟨tree, single, operand⟩ := eq_singleton_of_reads read (Fold.settled_foldAll grown.known)
  have growth : Fold.Grown tree := Fold.allGrown_foldAll grown tree (by simp [single])
  refine ⟨tree, single, isDerivation_of_grown growth operand, ?_⟩
  have same := Fold.leavesAll_foldAll grown.known
  rw [single, leaves] at same
  simpa using same

/-- A list that folds to one node was one node, or can be derived. -/
theorem derivable_of_foldAll {nodes : List Node} (grown : Fold.AllGrown nodes)
    (leaves : Node.leavesAll nodes = nodes) {tree : Node}
    (h : (Fold.foldAll nodes).nodes = [tree]) : nodes.length = 1 ∨ Derivable nodes := by
  have growth : Fold.Grown tree := Fold.allGrown_foldAll grown tree (by simp [h])
  have same := Fold.leavesAll_foldAll grown.known
  rw [h, leaves, Node.leavesAll_cons, Node.leavesAll_nil, List.append_nil] at same
  cases growth with
  | leaf value hkind =>
    rw [Node.leaves_leaf hkind] at same
    exact .inl (by simp [← same])
  | window fits ha hb hc =>
    have growth := Fold.Grown.window fits ha hb hc
    rw [← same]
    exact .inr (derivable_leaves (isDerivation_of_grown growth rfl))

/-- **Folding accepts exactly the expression grammar.**  Folding ends without a fault.  Tokens fold
to one node iff there is only one of them or they can be derived; and if they can be derived, that
node is a tree of the grammar whose leaves are the tokens in their order. -/
theorem foldAll_singleton_iff_derivable (tokens : List String) :
    let leaves := tokens.map (classify false)
    let folded := Fold.foldAll leaves
    folded.fault = none ∧
      (folded.nodes.length = 1 ↔ tokens.length = 1 ∨ Derivable leaves) ∧
      (Derivable leaves →
        ∃ tree, folded.nodes = [tree] ∧ IsDerivation tree ∧ tree.leaves = leaves) := by
  intro leaves folded
  have grown : Fold.AllGrown leaves := Source.allGrown_map_classify tokens
  have own : Node.leavesAll leaves = leaves := Source.leavesAll_map_classify tokens
  refine ⟨Fold.fault_foldAll grown.known, ⟨?_, ?_⟩, foldAll_of_derivable grown own⟩
  · intro h
    obtain ⟨tree, single⟩ := List.length_eq_one_iff.mp h
    simpa [leaves] using derivable_of_foldAll grown own single
  · rintro (h | h)
    · obtain ⟨token, rfl⟩ := List.length_eq_one_iff.mp h
      rw [Fold.nodes_foldAll_of_foldOnce_eq_none grown.known fun _ => rfl]
      rfl
    · obtain ⟨tree, single, -⟩ := foldAll_of_derivable grown own h
      rw [single]
      rfl

/-- Parentheses around what binds weaker. -/
theorem foldAll_singleton_iff_derivable_nested :
    ∃ tree, (Fold.foldAll (["(", "A", "+", "2.5", ")", "^", "B"].map (classify false))).nodes
        = [tree] ∧ IsDerivation tree ∧
      tree.leaves = ["(", "A", "+", "2.5", ")", "^", "B"].map (classify false) := by
  have sum : Derivable (["A", "+", "2.5"].map (classify false)) :=
    .operation (by decide) (.value "A" (.inr (.inr rfl))) (.value "2.5" (.inr (.inl rfl)))
  have power : Derivable (["(", "A", "+", "2.5", ")", "^", "B"].map (classify false)) :=
    .operation (by decide) (.parentheses sum) (.value "B" (.inr (.inr rfl)))
  exact (foldAll_singleton_iff_derivable _).2.2 power

end Expression

end LineBasic
