/-
# What folding does to a list

On a list of nodes of known kinds no test of folding can meet a fault.  Folding is then a matter
of windows alone, and this file gives that view of it.

* `foldOnce` is the leftmost fold of a level without faults and notices, and `FoldStep` is any
  fold at all.  Every fold that is carried out is a `FoldStep`, so **whatever every `FoldStep`
  preserves, folding preserves** (`foldAll_induction`).
* **Folding ends in a list without windows** (`settled_foldAll`).  A round that folds nothing has
  found no window at any of the four levels.
* **A node that can be in no window separates what stands on its two sides**
  (`nodes_foldAll_barrier`).  Rounds go on as long as one side folds something, and a side that is
  settled stays as it is.
-/
import LineBasic.Node.Fold
import Mathlib.Tactic.Common

namespace LineBasic

/-! ## 1. Known nodes -/

namespace Node

/-- The node is there, and of a kind that the operations know. -/
def Known : Node → Prop
  | hole => False
  | mk (.other _) _ _ => False
  | mk _ _ _ => True

/-- The node may be an operand. -/
def isOperand : Node → Bool
  | mk .number _ _ | mk .float _ _ | mk .identifier _ _ | mk .expression _ _ => true
  | _ => false

/-- The node is a symbol among the given ones. -/
def isSymbolAmong (texts : List String) : Node → Bool
  | mk .symbol value _ => texts.contains value
  | _ => false

theorem known_expression (a b c : Node) : (expression a b c).Known := trivial

theorem isOperand_expression (a b c : Node) : (expression a b c).isOperand := rfl

theorem isValue_of_known {n : Node} (h : n.Known) : n.isValue = .ok n.isOperand := by
  match n with
  | hole => exact h.elim
  | mk kind _ _ => cases kind <;> first | rfl | exact h.elim

end Node

namespace Fold

theorem isOperator_of_known {n : Node} (h : n.Known) (operators : List String) :
    isOperator operators n = .ok (n.isSymbolAmong operators) := by
  match n with
  | .hole => exact h.elim
  | .mk kind _ _ => cases kind <;> simp [isOperator, Node.isSymbolAmong]

/-! ## 2. Windows -/

/-- Three adjacent nodes are a window of the level. -/
def Level.fits (level : Level) (a b c : Node) : Bool :=
  match level with
  | .parenthesis => a.isSymbol "(" && b.isOperand && c.isSymbol ")"
  | _ => b.isSymbolAmong level.operators && a.isOperand && c.isOperand

theorem both_ok (a b : Bool) : both (.ok a) (.ok b) = .ok (a && b) := by
  cases a <;> rfl

theorem matches_of_known {a b c : Node} (ha : a.Known) (hb : b.Known) (hc : c.Known)
    (level : Level) : level.matches ⟨a, b, c⟩ = .ok (level.fits a b c) := by
  cases level <;>
    simp only [Level.matches, Level.fits, Node.isValue_of_known ha, Node.isValue_of_known hb,
      Node.isValue_of_known hc, isOperator_of_known hb, both_ok, Bool.and_assoc]

/-- The list with the leftmost window of the level folded, if there is one. -/
def foldOnce (level : Level) : List Node → Option (List Node)
  | a :: b :: c :: rest =>
    if level.fits a b c then some (.expression a b c :: rest)
    else (foldOnce level (b :: c :: rest)).map (a :: ·)
  | _ => none

/-- Any fold: a window somewhere in the list, at any level, becomes an expression. -/
inductive FoldStep : List Node → List Node → Prop
  | mk {level : Level} {a b c : Node} (before after : List Node) (fits : level.fits a b c) :
      FoldStep (before ++ a :: b :: c :: after) (before ++ .expression a b c :: after)

/-- No window is left, at any level. -/
def Settled (nodes : List Node) : Prop := ∀ nodes', ¬ FoldStep nodes nodes'

/-- All nodes are known. -/
def AllKnown (nodes : List Node) : Prop := ∀ n ∈ nodes, n.Known

theorem AllKnown.tail {a : Node} {rest : List Node} (h : AllKnown (a :: rest)) : AllKnown rest :=
  fun n hn => h n (List.mem_cons_of_mem a hn)

theorem foldFirst_of_known (level : Level) {nodes : List Node} (h : AllKnown nodes) :
    ∃ found, foldFirst level nodes = .ok found ∧ found.map (·.2) = foldOnce level nodes := by
  fun_induction foldOnce level nodes with
  | case1 a b c rest fits =>
    refine ⟨some (⟨a, b, c⟩, .expression a b c :: rest), ?_, rfl⟩
    rw [foldFirst, matches_of_known (h a (by simp)) (h b (by simp)) (h c (by simp)), fits]
  | case2 a b c rest fits ih =>
    obtain ⟨found, hfound, hmap⟩ := ih h.tail
    rw [foldFirst, matches_of_known (h a (by simp)) (h b (by simp)) (h c (by simp)),
      Bool.eq_false_iff.mpr fits, hfound]
    cases found with
    | none => exact ⟨none, rfl, by rw [← hmap]; rfl⟩
    | some found => exact ⟨some (found.1, a :: found.2), rfl, by rw [← hmap]; rfl⟩
  | case3 nodes short =>
    refine ⟨none, ?_, rfl⟩
    rcases nodes with _ | ⟨a, _ | ⟨b, _ | ⟨c, rest⟩⟩⟩
    · rfl
    · rfl
    · rfl
    · exact absurd rfl (short a b c rest)

theorem FoldStep.cons {nodes nodes' : List Node} (h : FoldStep nodes nodes') (n : Node) :
    FoldStep (n :: nodes) (n :: nodes') := by
  obtain ⟨before, after, fits⟩ := h
  exact .mk (n :: before) after fits

/-- Every fold takes two nodes. -/
theorem FoldStep.length_add_two {nodes nodes' : List Node} (h : FoldStep nodes nodes') :
    nodes'.length + 2 = nodes.length := by
  obtain ⟨before, after, -⟩ := h
  simp only [List.length_append, List.length_cons]
  omega

/-- The leftmost fold is a fold. -/
theorem foldStep_of_foldOnce {level : Level} {nodes nodes' : List Node}
    (h : foldOnce level nodes = some nodes') : FoldStep nodes nodes' := by
  fun_induction foldOnce level nodes generalizing nodes' with
  | case1 a b c rest fits =>
    cases h
    exact .mk [] rest fits
  | case2 a b c rest fits ih =>
    obtain ⟨folded, hfolded, rfl⟩ := Option.map_eq_some_iff.mp h
    exact (ih hfolded).cons a
  | case3 => cases h

/-- A level without a leftmost window has no window. -/
theorem fits_of_foldOnce_eq_none {level : Level} {a b c : Node} {before after : List Node}
    (h : foldOnce level (before ++ a :: b :: c :: after) = none) : level.fits a b c = false := by
  induction before with
  | nil =>
    rw [List.nil_append, foldOnce] at h
    split at h
    · cases h
    · rename_i fits
      exact Bool.eq_false_iff.mpr fits
  | cons n before ih =>
    apply ih
    match before with
    | [] =>
      rw [List.cons_append, List.nil_append, foldOnce] at h
      split at h
      · cases h
      · exact Option.map_eq_none_iff.mp h
    | [m] =>
      rw [List.cons_append, List.cons_append, List.nil_append, foldOnce] at h
      split at h
      · cases h
      · exact Option.map_eq_none_iff.mp h
    | m :: k :: before =>
      rw [List.cons_append, List.cons_append, List.cons_append, foldOnce] at h
      split at h
      · cases h
      · exact Option.map_eq_none_iff.mp h

theorem settled_of_foldOnce_eq_none {nodes : List Node}
    (h : ∀ level, foldOnce level nodes = none) : Settled nodes := by
  rintro _ ⟨before, after, fits⟩
  rw [fits_of_foldOnce_eq_none (h _)] at fits
  cases fits

theorem foldOnce_eq_none_of_settled {nodes : List Node} (h : Settled nodes) (level : Level) :
    foldOnce level nodes = none := by
  rw [Option.eq_none_iff_forall_ne_some]
  intro folded hfolded
  exact h folded (foldStep_of_foldOnce hfolded)

theorem FoldStep.allKnown {nodes nodes' : List Node} (h : FoldStep nodes nodes')
    (known : AllKnown nodes) : AllKnown nodes' := by
  obtain ⟨before, after, fits⟩ := h
  intro n hn
  rcases List.mem_append.mp hn with hn | hn
  · exact known n (by simp [hn])
  · rcases List.mem_cons.mp hn with rfl | hn
    · exact Node.known_expression _ _ _
    · exact known n (by simp [hn])

/-! ## 3. Folding without faults -/

theorem fault_foldLevel (level : Level) {nodes : List Node} (known : AllKnown nodes) :
    (foldLevel level nodes).fault = none := by
  fun_induction foldLevel level nodes with
  | case1 nodes fault h =>
    obtain ⟨found, hfound, -⟩ := foldFirst_of_known level known
    rw [hfound] at h
    cases h
  | case2 => rfl
  | case3 nodes w folded h _ r ih =>
    obtain ⟨found, hfound, hmap⟩ := foldFirst_of_known level known
    rw [h] at hfound
    cases hfound
    exact ih ((foldStep_of_foldOnce hmap.symm).allKnown known)

/-- A level folds its leftmost window and goes on with the shorter list. -/
theorem nodes_foldLevel (level : Level) {nodes : List Node} (known : AllKnown nodes) :
    (foldLevel level nodes).nodes =
      match foldOnce level nodes with
      | none => nodes
      | some folded => (foldLevel level folded).nodes := by
  obtain ⟨found, hfound, hmap⟩ := foldFirst_of_known level known
  rw [foldLevel, ← hmap]
  split
  · simp_all
  · rename_i h
    rw [h] at hfound
    cases hfound
    rfl
  · rename_i w folded h
    rw [h] at hfound
    cases hfound
    rfl

/-- What every fold preserves is preserved at a level, together with the nodes being known. -/
theorem foldLevel_induction {P : List Node → Prop} (level : Level)
    (step : ∀ nodes nodes', AllKnown nodes → FoldStep nodes nodes' → P nodes → P nodes')
    {nodes : List Node} (known : AllKnown nodes) (h : P nodes) :
    AllKnown (foldLevel level nodes).nodes ∧ P (foldLevel level nodes).nodes := by
  induction hn : nodes.length using Nat.strongRecOn generalizing nodes with
  | ind length ih =>
    rw [nodes_foldLevel level known]
    split
    · exact ⟨known, h⟩
    · rename_i folded hfolded
      have hstep := foldStep_of_foldOnce hfolded
      have hlength := hstep.length_add_two
      exact ih _ (by omega) (hstep.allKnown known) (step _ _ known hstep h) rfl

theorem allKnown_foldLevel (level : Level) {nodes : List Node} (known : AllKnown nodes) :
    AllKnown (foldLevel level nodes).nodes :=
  (foldLevel_induction (P := fun _ => True) level (fun _ _ _ _ _ => trivial) known trivial).1

theorem nodes_andThen {r : Result} (h : r.fault = none) (next : List Node → Result) :
    (r.andThen next).nodes = (next r.nodes).nodes := by
  simp [Result.andThen, h]

theorem fault_andThen {r : Result} {next : List Node → Result} (h : r.fault = none)
    (hnext : (next r.nodes).fault = none) : (r.andThen next).fault = none := by
  simp [Result.andThen, h, hnext]

/-- A round without faults takes the four levels in turn. -/
theorem foldRound_of_known {nodes : List Node} (known : AllKnown nodes) :
    (foldRound nodes).fault = none ∧
      (foldRound nodes).nodes = (foldLevel .parenthesis (foldLevel .power (foldLevel .sum
        (foldLevel .product nodes).nodes).nodes).nodes).nodes := by
  have h1 := fault_foldLevel .product known
  have k1 := allKnown_foldLevel .product known
  have h2 := fault_andThen h1 (fault_foldLevel .sum k1)
  have k2 := allKnown_foldLevel .sum k1
  rw [← nodes_andThen h1] at k2
  have h3 := fault_andThen h2 (fault_foldLevel .power k2)
  have k3 := allKnown_foldLevel .power k2
  rw [← nodes_andThen h2] at k3
  refine ⟨fault_andThen h3 (fault_foldLevel .parenthesis k3), ?_⟩
  rw [foldRound, nodes_andThen h3, nodes_andThen h2, nodes_andThen h1]

/-- What every fold preserves is preserved in a round. -/
theorem foldRound_induction {P : List Node → Prop}
    (step : ∀ nodes nodes', AllKnown nodes → FoldStep nodes nodes' → P nodes → P nodes')
    {nodes : List Node} (known : AllKnown nodes) (h : P nodes) :
    AllKnown (foldRound nodes).nodes ∧ P (foldRound nodes).nodes := by
  rw [(foldRound_of_known known).2]
  obtain ⟨k1, p1⟩ := foldLevel_induction .product step known h
  obtain ⟨k2, p2⟩ := foldLevel_induction .sum step k1 p1
  obtain ⟨k3, p3⟩ := foldLevel_induction .power step k2 p2
  exact foldLevel_induction .parenthesis step k3 p3

/-- A level that leaves the length as it is has no window. -/
theorem foldOnce_eq_none_of_length (level : Level) {nodes : List Node} (known : AllKnown nodes)
    (h : nodes.length ≤ (foldLevel level nodes).nodes.length) : foldOnce level nodes = none := by
  rw [nodes_foldLevel level known] at h
  split at h
  · assumption
  · rename_i folded hfolded
    have hstep := (foldStep_of_foldOnce hfolded).length_add_two
    have hlength := length_foldLevel level folded
    omega

theorem nodes_foldLevel_of_foldOnce_eq_none {level : Level} {nodes : List Node}
    (known : AllKnown nodes) (h : foldOnce level nodes = none) :
    (foldLevel level nodes).nodes = nodes := by
  rw [nodes_foldLevel level known, h]

/-- A round that folds nothing has met no window, and leaves the list as it is. -/
theorem foldRound_of_windows_eq_nil {nodes : List Node} (known : AllKnown nodes)
    (h : (foldRound nodes).windows = []) :
    (foldRound nodes).nodes = nodes ∧ ∀ level, foldOnce level nodes = none := by
  have hlength := length_foldRound nodes
  rw [h, List.length_nil, (foldRound_of_known known).2] at hlength
  -- no level lengthens the list, so none of them shortens it
  have l1 := length_foldLevel .product nodes
  have l2 := length_foldLevel .sum (foldLevel .product nodes).nodes
  have l3 := length_foldLevel .power (foldLevel .sum (foldLevel .product nodes).nodes).nodes
  have l4 := length_foldLevel .parenthesis
    (foldLevel .power (foldLevel .sum (foldLevel .product nodes).nodes).nodes).nodes
  have n1 := foldOnce_eq_none_of_length .product known (by omega)
  have e1 := nodes_foldLevel_of_foldOnce_eq_none known n1
  rw [e1] at l2 l3 l4 hlength
  have n2 := foldOnce_eq_none_of_length .sum known (by omega)
  have e2 := nodes_foldLevel_of_foldOnce_eq_none known n2
  rw [e2] at l3 l4 hlength
  have n3 := foldOnce_eq_none_of_length .power known (by omega)
  have e3 := nodes_foldLevel_of_foldOnce_eq_none known n3
  rw [e3] at l4 hlength
  have n4 := foldOnce_eq_none_of_length .parenthesis known (by omega)
  have e4 := nodes_foldLevel_of_foldOnce_eq_none known n4
  refine ⟨by rw [(foldRound_of_known known).2, e1, e2, e3, e4], ?_⟩
  intro level
  cases level with
  | product => exact n1
  | sum => exact n2
  | power => exact n3
  | parenthesis => exact n4

/-- Folding goes on with the list after a round, unless that round folded nothing. -/
theorem foldAll_of_known {nodes : List Node} (known : AllKnown nodes) :
    ((foldRound nodes).windows = [] ∧ (foldAll nodes).nodes = nodes ∧
        (foldAll nodes).fault = none) ∨
      ((foldRound nodes).nodes.length < nodes.length ∧
        (foldAll nodes).nodes = (foldAll (foldRound nodes).nodes).nodes ∧
        (foldAll nodes).fault = (foldAll (foldRound nodes).nodes).fault) := by
  have hfault := (foldRound_of_known known).1
  have hlength := length_foldRound nodes
  rw [foldAll]
  by_cases h : (foldRound nodes).windows = []
  · refine .inl ⟨h, ?_⟩
    simp [h, hfault, (foldRound_of_windows_eq_nil known h).1]
  · refine .inr ⟨?_, ?_⟩
    · have := List.length_pos_iff.mpr h
      omega
    · simp [h, hfault]

theorem allKnown_foldRound {nodes : List Node} (known : AllKnown nodes) :
    AllKnown (foldRound nodes).nodes :=
  (foldRound_induction (P := fun _ => True) (fun _ _ _ _ _ => trivial) known trivial).1

/-- Induction over the rounds, from the one that folds nothing back to the first. -/
theorem rounds_induction {Q : List Node → Prop}
    (last : ∀ nodes, AllKnown nodes → (foldRound nodes).windows = [] →
      (foldAll nodes).nodes = nodes → (foldAll nodes).fault = none → Q nodes)
    (round : ∀ nodes, AllKnown nodes →
      (foldAll nodes).nodes = (foldAll (foldRound nodes).nodes).nodes →
      (foldAll nodes).fault = (foldAll (foldRound nodes).nodes).fault →
      Q (foldRound nodes).nodes → Q nodes)
    {nodes : List Node} (known : AllKnown nodes) : Q nodes := by
  induction hn : nodes.length using Nat.strongRecOn generalizing nodes with
  | ind length ih =>
    rcases foldAll_of_known known with ⟨nothing, same, none⟩ | ⟨shorter, later, fault⟩
    · exact last nodes known nothing same none
    · exact round nodes known later fault (ih _ (hn ▸ shorter) (allKnown_foldRound known) rfl)

/-- **What every fold preserves, folding preserves.** -/
theorem foldAll_induction {P : List Node → Prop}
    (step : ∀ nodes nodes', AllKnown nodes → FoldStep nodes nodes' → P nodes → P nodes')
    {nodes : List Node} (known : AllKnown nodes) (h : P nodes) :
    AllKnown (foldAll nodes).nodes ∧ P (foldAll nodes).nodes := by
  refine rounds_induction (Q := fun ns => P ns → AllKnown (foldAll ns).nodes ∧ P (foldAll ns).nodes)
    ?_ ?_ known h
  · intro nodes known _ same _ h
    rw [same]
    exact ⟨known, h⟩
  · intro nodes known later _ ih h
    rw [later]
    exact ih (foldRound_induction step known h).2

theorem allKnown_foldAll {nodes : List Node} (known : AllKnown nodes) :
    AllKnown (foldAll nodes).nodes :=
  (foldAll_induction (P := fun _ => True) (fun _ _ _ _ _ => trivial) known trivial).1

/-- A list without windows stays as it is. -/
theorem nodes_foldAll_of_foldOnce_eq_none {nodes : List Node} (known : AllKnown nodes)
    (h : ∀ level, foldOnce level nodes = none) : (foldAll nodes).nodes = nodes := by
  have stays : ∀ level, (foldLevel level nodes).nodes = nodes := fun level =>
    nodes_foldLevel_of_foldOnce_eq_none known (h level)
  rcases foldAll_of_known known with ⟨-, same, -⟩ | ⟨shorter, -, -⟩
  · exact same
  · rw [(foldRound_of_known known).2, stays, stays, stays, stays] at shorter
    exact absurd shorter (Nat.lt_irrefl _)

/-- A list without windows has nothing that folding could report. -/
theorem windows_foldAll_of_foldOnce_eq_none {nodes : List Node} (known : AllKnown nodes)
    (h : ∀ level, foldOnce level nodes = none) : (foldAll nodes).windows = [] := by
  have stays : ∀ level, (foldLevel level nodes).nodes = nodes := fun level =>
    nodes_foldLevel_of_foldOnce_eq_none known (h level)
  have hlength := length_foldRound nodes
  rw [(foldRound_of_known known).2, stays, stays, stays, stays] at hlength
  have nothing : (foldRound nodes).windows = [] := List.length_eq_zero_iff.mp (by omega)
  rw [foldAll]
  simp [nothing]

/-- Each window that was folded took two nodes. -/
theorem length_foldAll (nodes : List Node) :
    (foldAll nodes).nodes.length + 2 * (foldAll nodes).windows.length = nodes.length := by
  fun_induction foldAll nodes with
  | case1 nodes r _ => exact length_foldRound nodes
  | case2 nodes r _ _ => exact length_foldRound nodes
  | case3 nodes r _ _ _ later ih =>
    have round : r.nodes.length + 2 * r.windows.length = nodes.length := length_foldRound nodes
    have rest : later.nodes.length + 2 * later.windows.length = r.nodes.length := ih
    simp only [List.length_append]
    omega

/-- On known nodes folding meets no fault. -/
theorem fault_foldAll {nodes : List Node} (known : AllKnown nodes) :
    (foldAll nodes).fault = none := by
  refine rounds_induction (Q := fun ns => (foldAll ns).fault = none) ?_ ?_ known
  · intro nodes _ _ _ none
    exact none
  · intro nodes _ _ later ih
    exact later.trans ih

/-- **Folding leaves no window.** -/
theorem settled_foldAll {nodes : List Node} (known : AllKnown nodes) :
    Settled (foldAll nodes).nodes := by
  refine rounds_induction (Q := fun ns => Settled (foldAll ns).nodes) ?_ ?_ known
  · intro nodes known nothing same _
    rw [same]
    exact settled_of_foldOnce_eq_none (foldRound_of_windows_eq_nil known nothing).2
  · intro nodes _ later _ ih
    rw [later]
    exact ih

/-! ## 4. Barriers -/

/-- A node that can be in no window: no operand, no operator and no parenthesis. -/
structure Inert (n : Node) : Prop where
  known : n.Known
  operand : n.isOperand = false
  symbol : n.isSymbolAmong ["+", "-", "*", "/", "^", "(", ")"] = false

/-- An inert node is none of the symbols that a window can have. -/
theorem Inert.isSymbolAmong {n : Node} (h : Inert n) (texts : List String)
    (sub : ∀ text ∈ texts, text ∈ ["+", "-", "*", "/", "^", "(", ")"]) :
    n.isSymbolAmong texts = false := by
  have hsymbol := h.symbol
  unfold Node.isSymbolAmong at hsymbol ⊢
  split
  · rename_i value _
    simp only [List.contains_eq_mem, decide_eq_false_iff_not] at hsymbol ⊢
    exact fun hvalue => hsymbol (sub value hvalue)
  · rfl

theorem Inert.isSymbol {n : Node} (h : Inert n) (text : String)
    (mem : text ∈ ["+", "-", "*", "/", "^", "(", ")"]) : n.isSymbol text = false := by
  have hsymbol := h.isSymbolAmong [text] (by simpa using mem)
  unfold Node.isSymbolAmong at hsymbol
  unfold Node.isSymbol
  split
  · simpa using hsymbol
  · rfl

theorem Inert.fits_left {n : Node} (h : Inert n) (level : Level) (b c : Node) :
    level.fits n b c = false := by
  cases level <;> simp [Level.fits, h.operand, h.isSymbol "(" (by simp)]

theorem Inert.fits_middle {n : Node} (h : Inert n) (level : Level) (a c : Node) :
    level.fits a n c = false := by
  cases level with
  | parenthesis => simp [Level.fits, h.operand]
  | _ => simp [Level.fits, Level.operators, h.isSymbolAmong]

theorem Inert.fits_right {n : Node} (h : Inert n) (level : Level) (a b : Node) :
    level.fits a b n = false := by
  cases level <;> simp [Level.fits, h.operand, h.isSymbol ")" (by simp)]

section Barrier

variable {b : Node} (h : Inert b)

include h

theorem foldOnce_cons_inert (level : Level) (ys : List Node) :
    foldOnce level (b :: ys) = (foldOnce level ys).map (b :: ·) := by
  match ys with
  | [] => rfl
  | [y] => rfl
  | y :: z :: ys => simp [foldOnce, h.fits_left]

theorem foldOnce_cons_cons_inert (level : Level) (x : Node) (ys : List Node) :
    foldOnce level (x :: b :: ys) = (foldOnce level ys).map ([x] ++ b :: ·) := by
  match ys with
  | [] => rfl
  | y :: ys =>
    rw [foldOnce, h.fits_middle, foldOnce_cons_inert h]
    simp [Function.comp_def]

/-- The leftmost window is in front of the barrier if there is one, else behind it. -/
theorem foldOnce_barrier (level : Level) (xs ys : List Node) :
    foldOnce level (xs ++ b :: ys) =
      match foldOnce level xs with
      | some folded => some (folded ++ b :: ys)
      | none => (foldOnce level ys).map (xs ++ b :: ·) := by
  fun_induction foldOnce level xs with
  | case1 a c d rest fits => simp [foldOnce, fits]
  | case2 a c d rest fits ih =>
    simp only [List.cons_append] at ih ⊢
    rw [foldOnce, Bool.eq_false_iff.mpr fits, ih]
    cases foldOnce level (c :: d :: rest) <;> simp [Function.comp_def]
  | case3 xs short =>
    match xs with
    | [] => exact foldOnce_cons_inert h level ys
    | [x] => exact foldOnce_cons_cons_inert h level x ys
    | [x, y] =>
      simp only [List.cons_append, List.nil_append]
      rw [foldOnce, h.fits_right, foldOnce_cons_cons_inert h]
      simp [Function.comp_def]
    | x :: y :: z :: xs => exact absurd rfl (short x y z xs)

theorem allKnown_barrier {xs ys : List Node} (hxs : AllKnown xs) (hys : AllKnown ys) :
    AllKnown (xs ++ b :: ys) := by
  intro n hn
  rcases List.mem_append.mp hn with hn | hn
  · exact hxs n hn
  · rcases List.mem_cons.mp hn with rfl | hn
    · exact h.known
    · exact hys n hn

theorem nodes_foldLevel_barrier (level : Level) {xs ys : List Node} (hxs : AllKnown xs)
    (hys : AllKnown ys) :
    (foldLevel level (xs ++ b :: ys)).nodes
      = (foldLevel level xs).nodes ++ b :: (foldLevel level ys).nodes := by
  induction hn : xs.length + ys.length using Nat.strongRecOn generalizing xs ys with
  | ind length ih =>
    rw [nodes_foldLevel level (allKnown_barrier h hxs hys), foldOnce_barrier h]
    cases hx : foldOnce level xs with
    | some folded =>
      have step := foldStep_of_foldOnce hx
      have hlength := step.length_add_two
      simp only
      rw [ih _ (by omega) (step.allKnown hxs) hys rfl, nodes_foldLevel level hxs, hx]
    | none =>
      rw [nodes_foldLevel_of_foldOnce_eq_none hxs hx]
      cases hy : foldOnce level ys with
      | none => simp [nodes_foldLevel_of_foldOnce_eq_none hys hy]
      | some folded =>
        have step := foldStep_of_foldOnce hy
        have hlength := step.length_add_two
        simp only [Option.map_some]
        rw [ih _ (by omega) hxs (step.allKnown hys) rfl, nodes_foldLevel level hys, hy,
          nodes_foldLevel_of_foldOnce_eq_none hxs hx]

theorem nodes_foldRound_barrier {xs ys : List Node} (hxs : AllKnown xs) (hys : AllKnown ys) :
    (foldRound (xs ++ b :: ys)).nodes = (foldRound xs).nodes ++ b :: (foldRound ys).nodes := by
  have k1 := allKnown_foldLevel .product hxs
  have k1' := allKnown_foldLevel .product hys
  have k2 := allKnown_foldLevel .sum k1
  have k2' := allKnown_foldLevel .sum k1'
  have k3 := allKnown_foldLevel .power k2
  have k3' := allKnown_foldLevel .power k2'
  rw [(foldRound_of_known (allKnown_barrier h hxs hys)).2, (foldRound_of_known hxs).2,
    (foldRound_of_known hys).2, nodes_foldLevel_barrier h _ hxs hys,
    nodes_foldLevel_barrier h _ k1 k1', nodes_foldLevel_barrier h _ k2 k2',
    nodes_foldLevel_barrier h _ k3 k3']

end Barrier

/-- A round more at the start changes nothing. -/
theorem nodes_foldAll_foldRound {nodes : List Node} (known : AllKnown nodes) :
    (foldAll (foldRound nodes).nodes).nodes = (foldAll nodes).nodes := by
  rcases foldAll_of_known known with ⟨nothing, -, -⟩ | ⟨-, later, -⟩
  · rw [(foldRound_of_windows_eq_nil known nothing).1]
  · exact later.symm

/-- **A barrier separates.**  Folding a list with an inert node in it is folding what stands before
that node and what stands behind it, each for itself. -/
theorem nodes_foldAll_barrier {b : Node} (h : Inert b) {xs ys : List Node} (hxs : AllKnown xs)
    (hys : AllKnown ys) :
    (foldAll (xs ++ b :: ys)).nodes = (foldAll xs).nodes ++ b :: (foldAll ys).nodes := by
  induction hn : (xs ++ b :: ys).length using Nat.strongRecOn generalizing xs ys with
  | ind length ih =>
    have known := allKnown_barrier h hxs hys
    rcases foldAll_of_known known with ⟨nothing, same, -⟩ | ⟨shorter, later, -⟩
    · -- nothing to fold as a whole, so nothing on either side
      have stable := (foldRound_of_windows_eq_nil known nothing).2
      have sides : ∀ level, foldOnce level xs = none ∧ foldOnce level ys = none := by
        intro level
        have hlevel := stable level
        rw [foldOnce_barrier h] at hlevel
        split at hlevel
        · cases hlevel
        · rename_i hnone
          exact ⟨hnone, Option.map_eq_none_iff.mp hlevel⟩
      rw [same, nodes_foldAll_of_foldOnce_eq_none hxs fun level => (sides level).1,
        nodes_foldAll_of_foldOnce_eq_none hys fun level => (sides level).2]
    · rw [later, nodes_foldRound_barrier h hxs hys]
      rw [nodes_foldRound_barrier h hxs hys] at shorter
      rw [ih _ (hn ▸ shorter) (allKnown_foldRound hxs) (allKnown_foldRound hys) rfl,
        nodes_foldAll_foldRound hxs, nodes_foldAll_foldRound hys]

/-- An inert node in front is passed over. -/
theorem nodes_foldAll_cons_inert {b : Node} (h : Inert b) {ys : List Node} (hys : AllKnown ys) :
    (foldAll (b :: ys)).nodes = b :: (foldAll ys).nodes := by
  have none : AllKnown [] := fun _ hn => nomatch hn
  have barrier := nodes_foldAll_barrier h none hys
  rwa [nodes_foldAll_of_foldOnce_eq_none none fun _ => rfl] at barrier

end Fold

/-! ## 5. The children of a node -/

namespace Node

variable (kind : Kind) (value : String) {children : List Node}

/-- Folding known children ends without a fault, and says whether anything was folded. -/
theorem fold_of_known (known : Fold.AllKnown children) :
    (mk kind value children).fold
      = ⟨mk kind value (Fold.foldAll children).nodes,
          .ok (!(Fold.foldAll children).windows.isEmpty), (Fold.foldAll children).notices⟩ := by
  simp [fold, Fold.fault_foldAll known]

/-- A node with nothing to fold stays as it is. -/
theorem fold_of_settled (known : Fold.AllKnown children) (settled : Fold.Settled children) :
    (mk kind value children).fold = ⟨mk kind value children, .ok false, []⟩ := by
  have stable := Fold.foldOnce_eq_none_of_settled settled
  rw [fold_of_known kind value known, Fold.Result.notices,
    Fold.nodes_foldAll_of_foldOnce_eq_none known stable,
    Fold.windows_foldAll_of_foldOnce_eq_none known stable]
  rfl

end Node

end LineBasic
