/-
# The order of folding

Folding picks one of the trees that the grammar of expressions allows.  Which one is said here.
Count the passes: 1 is the first over `*` and `/`, 2 the first over `+` and `-`, 3 that over `^`, 4
that over parentheses, 5 the second over `*` and `/`, and so on.  Every node has its pass
(`Tree.pass`):

* a node that was there from the start has pass 0;
* parentheses are folded by the first pass over parentheses that finds their inside folded;
* an operator is folded by the first pass of its level that finds its two neighbours there, and a
  neighbour is a single node or something in parentheses.

A tree is **ordered** if no operator is folded before its operands: the left one in the same pass at
the latest, the right one in an earlier pass.  **Folding a list gives its ordered tree**
(`nodes_foldAll_of_ordered`), and every expression has one (`exists_ordered`).

The proof follows the passes.  `stage k` is the list after `k` passes: what has a pass of `k` or
less is one node, the rest is still flat.  On an ordered tree one pass leads from one stage to the
next (`nodes_foldLevel_stage`), by induction on the tree over the stack of `scan`.
-/
import LineBasic.Proofs.ExpressionGrammar
import LineBasic.Proofs.StackPass

namespace LineBasic.Expression

open Fold (AllKnown Level foldAll foldLevel foldRound foldRound_of_known nodes_foldAll_foldRound
  nodes_foldAll_of_foldOnce_eq_none nodes_foldLevel_eq_scan push push_of_forall scan scan_append
  scan_cons scan_nil)

/-! ## 1. Trees -/

/-- A node that may be an operand. -/
structure Operand where
  node : Node
  isOperand : node.isOperand

/-- A node that is an operator. -/
structure Operator where
  node : Node
  isOperator : node.isSymbolAmong operators

/-- How an expression is grouped. -/
inductive Tree where
  | atom (x : Operand)
  | operation (left : Tree) (op : Operator) (right : Tree)
  | group (inner : Tree)

/-- The parenthesis that opens. -/
def opening : Node := .leaf .symbol "("

/-- The parenthesis that closes. -/
def closing : Node := .leaf .symbol ")"

namespace Tree

/-- The tree as one node. -/
def node : Tree → Node
  | atom x => x.node
  | operation left op right => .expression left.node op.node right.node
  | group inner => .expression opening inner.node closing

/-- The nodes that the tree groups, from left to right. -/
def nodes : Tree → List Node
  | atom x => [x.node]
  | operation left op right => left.nodes ++ op.node :: right.nodes
  | group inner => opening :: (inner.nodes ++ [closing])

theorem isOperand_node (t : Tree) : t.node.isOperand := by
  cases t with
  | atom x => exact x.isOperand
  | operation left op right => rfl
  | group inner => rfl

end Tree

/-! ## 2. Passes -/

/-- The number of the first pass of a level. -/
def firstPassOf : Level → Nat
  | .product => 1
  | .sum => 2
  | .power => 3
  | .parenthesis => 4

/-- The level of a pass. -/
def levelOfPass (k : Nat) : Level :=
  if k % 4 = 1 then .product else if k % 4 = 2 then .sum else if k % 4 = 3 then .power
  else .parenthesis

/-- The level of an operator. -/
def Operator.level (op : Operator) : Level :=
  if op.node.isSymbolAmong Level.product.operators then .product
  else if op.node.isSymbolAmong Level.sum.operators then .sum
  else .power

namespace Tree

mutual

/-- The pass in which the tree becomes one node. -/
def pass : Tree → Nat
  | atom _ => 0
  | operation left op right => max left.lastPass right.firstPass + firstPassOf op.level
  | group inner => 4 * ((inner.pass - 1) / 4 + 1)

/-- The pass of the leftmost node or parentheses in a chain of operations. -/
def firstPass : Tree → Nat
  | atom _ => 0
  | operation left _ _ => left.firstPass
  | group inner => 4 * ((inner.pass - 1) / 4 + 1)

/-- The pass of the rightmost node or parentheses in a chain of operations. -/
def lastPass : Tree → Nat
  | atom _ => 0
  | operation _ _ right => right.lastPass
  | group inner => 4 * ((inner.pass - 1) / 4 + 1)

end

/-- No operator is folded before its operands. -/
def Ordered : Tree → Prop
  | atom _ => True
  | operation left op right =>
    left.Ordered ∧ right.Ordered ∧ left.pass ≤ (operation left op right).pass
      ∧ right.pass < (operation left op right).pass
  | group inner => inner.Ordered

instance decidableOrdered : (t : Tree) → Decidable t.Ordered
  | atom _ => .isTrue trivial
  | operation left op right =>
    haveI := decidableOrdered left
    haveI := decidableOrdered right
    inferInstanceAs (Decidable (left.Ordered ∧ right.Ordered
      ∧ left.pass ≤ (operation left op right).pass ∧ right.pass < (operation left op right).pass))
  | group inner => decidableOrdered inner

/-- The list after `k` passes. -/
def stage (k : Nat) : Tree → List Node
  | atom x => [x.node]
  | operation left op right =>
    if (operation left op right).pass ≤ k then [(operation left op right).node]
    else left.stage k ++ op.node :: right.stage k
  | group inner =>
    if (group inner).pass ≤ k then [(group inner).node]
    else opening :: (inner.stage k ++ [closing])

end Tree

/-! ## 3. Facts about passes and stages -/

theorem firstPassOf_pos (level : Level) : 0 < firstPassOf level := by cases level <;> decide

theorem levelOfPass_eq_parenthesis_iff {k : Nat} : levelOfPass k = .parenthesis ↔ k % 4 = 0 := by
  unfold levelOfPass
  split_ifs <;> simp <;> omega

/-- A pass that is not over parentheses is so many rounds after the first of its level. -/
theorem eq_add_firstPassOf {k : Nat} (h : levelOfPass k ≠ .parenthesis) :
    k = 4 * (k / 4) + firstPassOf (levelOfPass k) := by
  rw [Ne, levelOfPass_eq_parenthesis_iff] at h
  unfold levelOfPass
  split_ifs <;> simp only [firstPassOf] <;> omega

theorem levelOfPass_add {q : Nat} (level : Level) :
    levelOfPass (4 * q + firstPassOf level) = level := by
  cases level <;> simp [levelOfPass, firstPassOf, Nat.add_mod]

theorem Operator.isOperand_node (op : Operator) : op.node.isOperand = false :=
  isOperand_of_isSymbolAmong op.isOperator

/-- An operator is one symbol. -/
theorem Operator.exists_value (op : Operator) :
    ∃ text children, op.node = .mk .symbol text children ∧ text ∈ operators := by
  obtain ⟨node, h⟩ := op
  unfold Node.isSymbolAmong at h
  split at h
  · rename_i text children
    exact ⟨text, children, rfl, by simpa using h⟩
  · cases h

theorem Operator.level_eq_iff {op : Operator} {level : Level} :
    op.level = level ↔ op.node.isSymbolAmong level.operators := by
  obtain ⟨text, children, hnode, htext⟩ := op.exists_value
  unfold Operator.level
  rw [hnode]
  simp only [operators, List.mem_cons, List.not_mem_nil, or_false] at htext
  rcases htext with rfl | rfl | rfl | rfl | rfl
  all_goals cases level <;> simp [Node.isSymbolAmong, Level.operators]

theorem Operator.level_ne_parenthesis (op : Operator) : op.level ≠ .parenthesis := by
  unfold Operator.level
  split_ifs <;> simp

/-- An operator is no parenthesis. -/
theorem Operator.isSymbol_eq_false (op : Operator) (text : String) (h : text ∉ operators) :
    op.node.isSymbol text = false := by
  obtain ⟨own, children, hnode, hown⟩ := op.exists_value
  have different : own ≠ text := fun same => h (same ▸ hown)
  simp [hnode, Node.isSymbol, different]

theorem Operator.known_node (op : Operator) : op.node.Known := by
  obtain ⟨text, children, hnode, -⟩ := op.exists_value
  rw [hnode]
  exact trivial

theorem known_of_isOperand {n : Node} (h : n.isOperand) : n.Known := by
  unfold Node.isOperand at h
  split at h <;> first | exact trivial | cases h

theorem isSymbol_of_isOperand {n : Node} (h : n.isOperand) (text : String) :
    n.isSymbol text = false := by
  unfold Node.isOperand at h
  split at h <;> first | rfl | cases h

namespace Tree

variable {t left right inner : Tree} {op : Operator} {k : Nat}

theorem pass_operation (left : Tree) (op : Operator) (right : Tree) :
    (operation left op right).pass = max left.lastPass right.firstPass + firstPassOf op.level :=
  rfl

theorem pass_group (inner : Tree) : (group inner).pass = 4 * ((inner.pass - 1) / 4 + 1) := rfl

theorem four_dvd_firstPass (t : Tree) : 4 ∣ t.firstPass := by
  induction t with
  | atom x => exact Nat.dvd_zero 4
  | operation left op right ih _ => exact ih
  | group inner _ => exact Nat.dvd_mul_right 4 _

theorem four_dvd_lastPass (t : Tree) : 4 ∣ t.lastPass := by
  induction t with
  | atom x => exact Nat.dvd_zero 4
  | operation left op right _ ih => exact ih
  | group inner _ => exact Nat.dvd_mul_right 4 _

/-- The pass of an operator is one of its level. -/
theorem levelOfPass_pass (left : Tree) (op : Operator) (right : Tree) :
    levelOfPass (operation left op right).pass = op.level := by
  have multiple : 4 ∣ max left.lastPass right.firstPass := by
    rw [Nat.max_def]
    split_ifs
    · exact four_dvd_firstPass right
    · exact four_dvd_lastPass left
  obtain ⟨q, hq⟩ := multiple
  rw [pass_operation, hq, levelOfPass_add]

theorem Ordered.firstPass_le (h : t.Ordered) : t.firstPass ≤ t.pass := by
  induction t with
  | atom x => exact Nat.le_refl 0
  | operation left op right ih _ => exact Nat.le_trans (ih h.1) h.2.2.1
  | group inner _ => exact Nat.le_refl _

theorem Ordered.lastPass_le (h : t.Ordered) : t.lastPass ≤ t.pass := by
  induction t with
  | atom x => exact Nat.le_refl 0
  | operation left op right _ ih => exact Nat.le_trans (ih h.2.1) (Nat.le_of_lt h.2.2.2)
  | group inner _ => exact Nat.le_refl _

/-- An operator that a pass of its level leaves has a neighbour in parentheses that are not folded
yet. -/
theorem lt_max_of_lt_pass (hlevel : levelOfPass k ≠ .parenthesis) (same : op.level = levelOfPass k)
    (later : k < (operation left op right).pass) : k < left.lastPass ∨ k < right.firstPass := by
  have := eq_add_firstPassOf hlevel
  have := mt levelOfPass_eq_parenthesis_iff.mpr hlevel
  have := four_dvd_lastPass left
  have := four_dvd_firstPass right
  rw [pass_operation, same] at later
  omega

theorem stage_of_pass_le (h : t.pass ≤ k) : t.stage k = [t.node] := by
  cases t with
  | atom x => rfl
  | operation left op right => rw [stage, if_pos h]
  | group inner => rw [stage, if_pos h]

theorem stage_operation (h : k < (operation left op right).pass) :
    (operation left op right).stage k = left.stage k ++ op.node :: right.stage k := by
  rw [stage, if_neg (by omega)]

theorem stage_group (h : k < (group inner).pass) :
    (group inner).stage k = opening :: (inner.stage k ++ [closing]) := by
  rw [stage, if_neg (by omega)]

/-- Before the first pass nothing is folded. -/
theorem stage_zero (t : Tree) : t.stage 0 = t.nodes := by
  induction t with
  | atom x => rfl
  | operation left op right ihl ihr =>
    have first := firstPassOf_pos op.level
    rw [stage_operation (by rw [pass_operation]; omega), ihl, ihr, nodes]
  | group inner ih => rw [stage_group (by rw [pass_group]; omega), ih, nodes]

/-- Parentheses at the end that are not folded yet leave a parenthesis there. -/
theorem exists_stage_eq_concat (ordered : t.Ordered) (h : k < t.lastPass) :
    ∃ front, t.stage k = front ++ [closing] := by
  induction t with
  | atom x => cases h
  | operation left op right _ ih =>
    obtain ⟨front, hfront⟩ := ih ordered.2.1 h
    have flat : k < (operation left op right).pass := Nat.lt_of_lt_of_le h ordered.lastPass_le
    exact ⟨left.stage k ++ op.node :: front, by rw [stage_operation flat, hfront]; simp⟩
  | group inner _ => exact ⟨opening :: inner.stage k, stage_group h⟩

/-! ## 4. One pass -/

/-- The node on top is an operator of the level with an operand below it. -/
def awaits (level : Level) : List Node → Bool
  | b :: a :: _ => b.isSymbolAmong level.operators && a.isOperand
  | _ => false

section OperatorPass

variable {level : Level} (hlevel : level ≠ .parenthesis) {n : Node}

include hlevel

theorem fits_operator (a b c : Node) :
    level.fits a b c = (b.isSymbolAmong level.operators && a.isOperand && c.isOperand) := by
  cases level <;> first | rfl | exact absurd rfl hlevel

theorem push_of_isOperand_eq_false (h : n.isOperand = false) (stack : List Node) :
    push level n stack = n :: stack :=
  push_of_forall fun a b => by simp [fits_operator hlevel, h]

theorem push_of_awaits_eq_false {stack : List Node} (h : awaits level stack = false) :
    push level n stack = n :: stack := by
  rcases stack with _ | ⟨b, _ | ⟨a, rest⟩⟩
  · rfl
  · rfl
  · simp only [awaits] at h
    simp [push, fits_operator hlevel, h]

end OperatorPass

theorem awaits_cons_opening {level : Level} {stack : List Node} :
    awaits level (opening :: stack) = false := by
  cases level <;> cases stack <;> rfl

/-- An operator that folds in another pass, or whose left operand is still in parentheses, awaits
nothing. -/
theorem awaits_operator {level : Level} {stack : List Node}
    (h : op.level ≠ level ∨ ∃ below, stack = closing :: below) :
    awaits level (op.node :: stack) = false := by
  rcases h with other | ⟨below, rfl⟩
  · cases stack with
    | nil => rfl
    | cons a rest => simp [awaits, mt Operator.level_eq_iff.mpr other]
  · exact Bool.and_false _

/-- An operator pass, seen from the stack.  Where the stack awaits an operand, the tree must not
begin with one. -/
theorem scan_stage_operator (hlevel : levelOfPass (k + 1) ≠ .parenthesis) (h : t.Ordered)
    (stack : List Node) (free : awaits (levelOfPass (k + 1)) stack = false ∨ k < t.firstPass) :
    scan (levelOfPass (k + 1)) stack (t.stage k) = (t.stage (k + 1)).reverse ++ stack := by
  have notMultiple : (k + 1) % 4 ≠ 0 := mt levelOfPass_eq_parenthesis_iff.mpr hlevel
  have push_symbol {n : Node} (hn : n.isOperand = false) := push_of_isOperand_eq_false hlevel hn
  induction t generalizing stack with
  | atom x =>
    have free := free.resolve_right (Nat.not_lt_zero k)
    simp [stage, push_of_awaits_eq_false hlevel free]
  | group inner ih =>
    by_cases folded : (group inner).pass ≤ k
    · have free := free.resolve_right (Nat.not_lt.mpr folded)
      rw [stage_of_pass_le folded, stage_of_pass_le (by omega)]
      simp [push_of_awaits_eq_false hlevel free]
    · -- the next pass is not over parentheses
      have flat : k + 1 < (group inner).pass := by
        rw [pass_group] at folded ⊢
        omega
      have inside := ih h (opening :: stack) (.inl awaits_cons_opening)
      rw [stage_group (by omega), stage_group flat]
      rw [scan_cons, push_symbol rfl, scan_append, inside, scan_cons, push_symbol rfl]
      simp
  | operation left op right ihl ihr =>
    obtain ⟨hleft, hright, left_le, right_lt⟩ := h
    by_cases folded : (operation left op right).pass ≤ k
    · have first_le : left.firstPass ≤ k := by
        have := hleft.firstPass_le
        omega
      have free := free.resolve_right (Nat.not_lt.mpr first_le)
      rw [stage_of_pass_le folded, stage_of_pass_le (by omega)]
      simp [push_of_awaits_eq_false hlevel free]
    · have flat : k < (operation left op right).pass := by omega
      rw [stage_operation flat, scan_append, ihl hleft stack free, scan_cons,
        push_symbol op.isOperand_node]
      by_cases now : (operation left op right).pass = k + 1
      · -- the pass folds the operator
        have first_le : left.firstPass ≤ k := by
          have := hleft.firstPass_le
          have := four_dvd_firstPass left
          omega
        have free := free.resolve_right (Nat.not_lt.mpr first_le)
        have fits : (levelOfPass (k + 1)).fits left.node op.node right.node := by
          have hop : op.node.isSymbolAmong (levelOfPass (k + 1)).operators := by
            rw [← Operator.level_eq_iff, ← levelOfPass_pass, now]
          simp [fits_operator hlevel, hop, isOperand_node]
        rw [stage_of_pass_le (by omega), stage_of_pass_le (by omega), stage_of_pass_le (by omega)]
        simp [push, fits, push_of_awaits_eq_false hlevel free, node]
      · -- the operator stays
        have later : k + 1 < (operation left op right).pass := by omega
        have still : awaits (levelOfPass (k + 1))
            (op.node :: ((left.stage (k + 1)).reverse ++ stack)) = false ∨ k < right.firstPass := by
          by_cases other : op.level = levelOfPass (k + 1)
          · rcases lt_max_of_lt_pass hlevel other later with closed | opened
            · obtain ⟨front, hfront⟩ := exists_stage_eq_concat hleft closed
              exact .inl (awaits_operator (.inr ⟨front.reverse ++ stack, by simp [hfront]⟩))
            · exact .inr (by omega)
          · exact .inl (awaits_operator (.inl other))
        rw [ihr hright _ still, stage_operation later]
        simp

/-- Only a closing parenthesis ends parentheses. -/
theorem push_parenthesis {n : Node} (h : n.isSymbol ")" = false) (stack : List Node) :
    push .parenthesis n stack = n :: stack :=
  push_of_forall fun a b => by simp [Level.fits, h]

/-- A parenthesis does not close an inside that is not folded yet. -/
theorem push_closing_stage (h : k < t.pass) (stack : List Node) :
    push .parenthesis closing ((t.stage k).reverse ++ stack)
      = closing :: ((t.stage k).reverse ++ stack) := by
  induction t generalizing stack with
  | atom x => cases h
  | operation left op right _ ih =>
    rw [stage_operation h]
    by_cases folded : right.pass ≤ k
    · simp [stage_of_pass_le folded, push, Level.fits, op.isSymbol_eq_false "(" (by decide)]
    · have inside := ih (by omega) (op.node :: ((left.stage k).reverse ++ stack))
      simpa using inside
  | group inner _ =>
    rw [stage_group h]
    have notOperand : closing.isOperand = false := rfl
    rcases hbelow : (inner.stage k).reverse ++ opening :: stack with _ | ⟨a, rest⟩
    · simp at hbelow
    · simp [hbelow, push, Level.fits, notOperand]

/-- A pass over parentheses, seen from the stack. -/
theorem scan_stage_parenthesis (hk : (k + 1) % 4 = 0) (h : t.Ordered) (stack : List Node) :
    scan .parenthesis stack (t.stage k) = (t.stage (k + 1)).reverse ++ stack := by
  induction t generalizing stack with
  | atom x => simp [stage, push_parenthesis (isSymbol_of_isOperand x.isOperand ")")]
  | operation left op right ihl ihr =>
    have symbol := isSymbol_of_isOperand (isOperand_node (operation left op right)) ")"
    by_cases folded : (operation left op right).pass ≤ k
    · rw [stage_of_pass_le folded, stage_of_pass_le (by omega)]
      simp [push_parenthesis symbol]
    · -- the pass of an operator is none over parentheses
      have later : k + 1 < (operation left op right).pass := by
        have := op.level_ne_parenthesis
        rw [← levelOfPass_pass left op right, Ne,
          levelOfPass_eq_parenthesis_iff] at this
        omega
      rw [stage_operation (by omega), stage_operation later, scan_append, ihl h.1, scan_cons,
        push_parenthesis (op.isSymbol_eq_false ")" (by decide)), ihr h.2.1]
      simp
  | group inner ih =>
    by_cases folded : (group inner).pass ≤ k
    · rw [stage_of_pass_le folded, stage_of_pass_le (by omega)]
      simp [push_parenthesis (isSymbol_of_isOperand (isOperand_node (group inner)) ")")]
    · rw [stage_group (by omega), scan_cons, push_parenthesis rfl, scan_append, ih h, scan_cons,
        scan_nil]
      have pass_eq := pass_group inner
      by_cases inside : inner.pass ≤ k + 1
      · rw [stage_of_pass_le inside, stage_of_pass_le (by omega)]
        have symbol := isSymbol_of_isOperand (isOperand_node (group inner)) ")"
        have fits : Level.parenthesis.fits opening inner.node closing := by
          simp [Level.fits, isOperand_node, opening, closing, Node.leaf, Node.isSymbol]
        rw [node] at symbol
        simp [push, fits, push_parenthesis symbol, node]
      · rw [push_closing_stage (by omega), stage_group (by omega)]
        simp

theorem allKnown_stage (t : Tree) (k : Nat) : AllKnown (t.stage k) := by
  have single (u : Tree) (h : u.pass ≤ k) : AllKnown (u.stage k) := by
    rw [stage_of_pass_le h]
    intro n hn
    rw [List.mem_singleton.mp hn]
    exact known_of_isOperand u.isOperand_node
  induction t with
  | atom x => exact single _ (Nat.zero_le k)
  | operation left op right ihl ihr =>
    by_cases folded : (operation left op right).pass ≤ k
    · exact single _ folded
    · rw [stage_operation (by omega)]
      intro n hn
      rcases List.mem_append.mp hn with hn | hn
      · exact ihl n hn
      · rcases List.mem_cons.mp hn with rfl | hn
        · exact op.known_node
        · exact ihr n hn
  | group inner ih =>
    by_cases folded : (group inner).pass ≤ k
    · exact single _ folded
    · rw [stage_group (by omega)]
      intro n hn
      simp only [List.mem_append, List.mem_cons, List.not_mem_nil, or_false] at hn
      rcases hn with rfl | hn | rfl
      · exact trivial
      · exact ih n hn
      · exact trivial

theorem allKnown_nodes (t : Tree) : AllKnown t.nodes := by
  rw [← stage_zero]
  exact allKnown_stage t 0

/-- **One pass leads from one stage to the next.** -/
theorem nodes_foldLevel_stage (h : t.Ordered) (k : Nat) :
    (foldLevel (levelOfPass (k + 1)) (t.stage k)).nodes = t.stage (k + 1) := by
  rw [nodes_foldLevel_eq_scan _ (allKnown_stage t k)]
  by_cases hlevel : levelOfPass (k + 1) = .parenthesis
  · rw [hlevel, scan_stage_parenthesis (levelOfPass_eq_parenthesis_iff.mp hlevel) h]
    simp
  · rw [scan_stage_operator hlevel h [] (.inl rfl)]
    simp

/-! ## 5. All passes -/

/-- A round is four passes. -/
theorem nodes_foldRound_stage (h : t.Ordered) (q : Nat) :
    (foldRound (t.stage (4 * q))).nodes = t.stage (4 * (q + 1)) := by
  have pass (level : Level) :
      (foldLevel level (t.stage (4 * q + (firstPassOf level - 1)))).nodes
        = t.stage (4 * q + firstPassOf level) := by
    have step := nodes_foldLevel_stage h (4 * q + (firstPassOf level - 1))
    have number : 4 * q + (firstPassOf level - 1) + 1 = 4 * q + firstPassOf level := by
      cases level <;> rfl
    rwa [number, levelOfPass_add] at step
  have product : (foldLevel .product (t.stage (4 * q))).nodes = t.stage (4 * q + 1) := pass .product
  have sum : (foldLevel .sum (t.stage (4 * q + 1))).nodes = t.stage (4 * q + 2) := pass .sum
  have power : (foldLevel .power (t.stage (4 * q + 2))).nodes = t.stage (4 * q + 3) := pass .power
  rw [(foldRound_of_known (allKnown_stage t _)).2, product, sum, power]
  exact pass .parenthesis

/-- Folding from any round on. -/
theorem nodes_foldAll_stage (h : t.Ordered) (q : Nat) :
    (foldAll (t.stage (4 * q))).nodes = (foldAll t.nodes).nodes := by
  induction q with
  | zero => rw [Nat.mul_zero, stage_zero]
  | succ q ih =>
    rw [← nodes_foldRound_stage h, nodes_foldAll_foldRound (allKnown_stage t _), ih]

/-- **Folding gives the ordered tree.** -/
theorem nodes_foldAll_of_ordered (h : t.Ordered) : (foldAll t.nodes).nodes = [t.node] := by
  have known := allKnown_stage t (4 * t.pass)
  have last := nodes_foldAll_stage h t.pass
  rw [stage_of_pass_le (by omega)] at known last
  rw [← last, nodes_foldAll_of_foldOnce_eq_none known fun _ => rfl]

/-! ## 6. Every expression has an ordered tree -/

/-- **Joining.**  Two ordered trees with an operator between them are one, in which the operator
sinks below what is folded later: into the left tree if its root comes last, into the right tree if
that root does. -/
theorem exists_join (op : Operator) (l r : Tree) (hl : l.Ordered) (hr : r.Ordered) :
    ∃ t : Tree, t.Ordered ∧ t.nodes = l.nodes ++ op.node :: r.nodes ∧ t.firstPass = l.firstPass
      ∧ t.lastPass = r.lastPass ∧ t.pass = max (max l.pass (operation l op r).pass) r.pass := by
  have positive := firstPassOf_pos op.level
  have own := pass_operation l op r
  by_cases intoLeft : (operation l op r).pass < l.pass ∧ r.pass < l.pass
  · match l with
    | atom _ => exact absurd intoLeft.1 (Nat.not_lt_zero _)
    | group inner =>
      have : (group inner).lastPass = (group inner).pass := rfl
      omega
    | operation ll o lr =>
      obtain ⟨hll, hlr, ll_le, lr_lt⟩ := hl
      obtain ⟨t, ht, nodes_eq, first_eq, last_eq, pass_eq⟩ := exists_join op lr r hlr hr
      have same : (operation ll o t).pass = (operation ll o lr).pass := by
        rw [pass_operation, pass_operation, first_eq]
      have sunk : (operation lr op r).pass = (operation (operation ll o lr) op r).pass := rfl
      refine ⟨operation ll o t, ⟨hll, ht, by omega, by omega⟩, ?_, rfl, last_eq, by omega⟩
      simp [nodes, nodes_eq]
  by_cases intoRight : (operation l op r).pass ≤ r.pass ∧ l.pass ≤ r.pass
  · match r with
    | atom _ =>
      have : (atom ‹_›).pass = 0 := rfl
      omega
    | group inner =>
      have : (group inner).firstPass = (group inner).pass := rfl
      omega
    | operation rl o rr =>
      obtain ⟨hrl, hrr, rl_le, rr_lt⟩ := hr
      obtain ⟨t, ht, nodes_eq, first_eq, last_eq, pass_eq⟩ := exists_join op l rl hl hrl
      have same : (operation t o rr).pass = (operation rl o rr).pass := by
        rw [pass_operation, pass_operation, last_eq]
      have sunk : (operation l op rl).pass = (operation l op (operation rl o rr)).pass := rfl
      refine ⟨operation t o rr, ⟨ht, hrr, by omega, by omega⟩, ?_, first_eq, rfl, by omega⟩
      simp [nodes, nodes_eq]
  · exact ⟨operation l op r, ⟨hl, hr, by omega, by omega⟩, rfl, rfl, rfl, by omega⟩
termination_by sizeOf l + sizeOf r

/-- **Every expression has an ordered tree.** -/
theorem exists_ordered (t : Tree) : ∃ u : Tree, u.Ordered ∧ u.nodes = t.nodes := by
  induction t with
  | atom x => exact ⟨atom x, trivial, rfl⟩
  | operation left op right ihl ihr =>
    obtain ⟨l, hl, l_eq⟩ := ihl
    obtain ⟨r, hr, r_eq⟩ := ihr
    obtain ⟨u, hu, nodes_eq, -⟩ := exists_join op l r hl hr
    exact ⟨u, hu, by rw [nodes_eq, l_eq, r_eq, nodes]⟩
  | group inner ih =>
    obtain ⟨u, hu, nodes_eq⟩ := ih
    exact ⟨group u, hu, by rw [nodes, nodes_eq, nodes]⟩

/-- A tree over nodes that are not grouped already can be read back from its node. -/
theorem node_injective {u : Tree} (ht : ∀ a b c, .expression a b c ∉ t.nodes)
    (hu : ∀ a b c, .expression a b c ∉ u.nodes) (h : t.node = u.node) : t = u := by
  -- a parenthesis is no operand, so the first node tells operations from parentheses
  have operation_ne_group (l : Tree) (o : Operator) (r i : Tree) :
      (operation l o r).node ≠ (group i).node := by
    intro same
    simp only [node, Node.expression, Node.mk.injEq, List.cons.injEq] at same
    have operand := isOperand_node l
    rw [same.2.2.1] at operand
    cases operand
  induction t generalizing u with
  | atom x =>
    cases u with
    | atom y =>
      obtain ⟨x, hx⟩ := x
      cases h
      rfl
    | _ => exact absurd (List.mem_singleton.mpr h.symm) (ht _ _ _)
  | operation left op right ihl ihr =>
    cases u with
    | atom y => exact absurd (List.mem_singleton.mpr h) (hu _ _ _)
    | group inner => exact absurd h (operation_ne_group _ _ _ _)
    | operation left' op' right' =>
      simp only [node, Node.expression, Node.mk.injEq, List.cons.injEq] at h
      simp only [nodes, List.mem_append, List.mem_cons, not_or] at ht hu
      obtain ⟨-, -, hleft, hop, hright, -⟩ := h
      have same_left := ihl (fun a b c => (ht a b c).1) (fun a b c => (hu a b c).1) hleft
      have same_right := ihr (fun a b c => (ht a b c).2.2) (fun a b c => (hu a b c).2.2) hright
      obtain ⟨op, _⟩ := op
      subst hop
      rw [same_left, same_right]
  | group inner ih =>
    cases u with
    | atom y => exact absurd (List.mem_singleton.mpr h) (hu _ _ _)
    | operation left op right => exact absurd h.symm (operation_ne_group _ _ _ _)
    | group inner' =>
      simp only [node, Node.expression, Node.mk.injEq, List.cons.injEq] at h
      simp only [nodes, List.mem_append, List.mem_cons, not_or] at ht hu
      rw [ih (fun a b c => (ht a b c).2.1) (fun a b c => (hu a b c).2.1) h.2.2.2.1]

/-- **Of all trees over the same nodes, the ordered one is what folding gives.** -/
theorem node_eq_iff_ordered {u : Tree} (plain : ∀ a b c, .expression a b c ∉ t.nodes)
    (ordered : u.Ordered) (same : u.nodes = t.nodes) : u.node = t.node ↔ t.Ordered := by
  constructor
  · intro h
    have tree_eq : u = t := node_injective (by rwa [same]) plain h
    rwa [tree_eq] at ordered
  · intro ht
    have folded := nodes_foldAll_of_ordered ordered
    rw [same, nodes_foldAll_of_ordered ht] at folded
    exact (List.singleton_inj.mp folded).symm

end Tree

end LineBasic.Expression
