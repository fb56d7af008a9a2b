/-
# Folding in any order

Folding takes the levels in turn and at each level the leftmost window.  Nothing but the grouping of
operator chains depends on that.  Whatever windows are folded, at any level and in any order, as
long as there is one, **the nodes that are left own the same spans of the original list**
(`spans_in_any_order`).  Also for a list that is no expression.

* A node owns a span if the span folds to just that node.  The spans of a folded list lie side by
  side and make up the original list, and there is only one way to cut it (`Owned.unique`): every
  fold keeps the number of ends, that is of nodes without children, so a longer span has more of
  them.
* Two windows that overlap share one operand, between two operators (`joins_of_overlap`).  The two
  folds differ in the grouping, and one more fold gives the same span on both sides.  Two windows
  that do not overlap can be folded in either order.  So two folds of one list can always be brought
  together again by one fold each (`diamond`).

The argument needs of a node only its role, the span it owns and its tree with the operator chains
laid flat (`Mark`).  On marks folding is confluent in the strict sense, and a list without windows
can not be folded on, so all that folding can end in has the same marks.
-/
import LineBasic.Proofs.ExpressionGrammar
import Mathlib.Data.List.Forall2
import Mathlib.Logic.Relation

namespace LineBasic

open Expression (IsWindow Role operators role)

/-! ## 1. Trees without the grouping of operator chains -/

/-- What is left of a tree when its operator chains are laid flat: single nodes, and parentheses
with what they enclose. -/
inductive Item where
  | single (n : Node)
  | enclosed (items : List Item)

namespace Node

/-- A tree with its operator chains laid flat.  What is enclosed in parentheses stays together. -/
def flat : Node → List Item
  | mk .expression _ [a, b, c] =>
    if b.isSymbolAmong operators then a.flat ++ (b.flat ++ c.flat)
    else [.enclosed (a.flat ++ (b.flat ++ c.flat))]
  | n => [.single n]

theorem flat_expression (a b c : Node) :
    (expression a b c).flat
      = if b.isSymbolAmong operators then a.flat ++ (b.flat ++ c.flat)
        else [.enclosed (a.flat ++ (b.flat ++ c.flat))] := by
  rw [expression, flat]

mutual

/-- The number of nodes in a tree that have no children.  An empty place is one of them. -/
def ends : Node → Nat
  | hole => 1
  | mk _ _ children => max 1 (endsAll children)

/-- The number of nodes in a list of trees that have no children. -/
def endsAll : List Node → Nat
  | [] => 0
  | n :: ns => ends n + endsAll ns

end

theorem ends_pos (n : Node) : 0 < n.ends := by
  cases n with
  | hole => exact Nat.one_pos
  | mk kind value children =>
    rw [ends]
    omega

theorem endsAll_append (ms ns : List Node) : endsAll (ms ++ ns) = endsAll ms + endsAll ns := by
  induction ms with
  | nil => simp [endsAll]
  | cons m ms ih =>
    rw [List.cons_append, endsAll, endsAll, ih]
    omega

theorem ends_expression (a b c : Node) :
    (expression a b c).ends = a.ends + (b.ends + c.ends) := by
  have ha := a.ends_pos
  rw [expression, ends, endsAll, endsAll, endsAll, endsAll]
  omega

theorem eq_nil_of_endsAll {ns : List Node} (h : endsAll ns = 0) : ns = [] := by
  cases ns with
  | nil => rfl
  | cons n ns =>
    have hn := n.ends_pos
    rw [endsAll] at h
    omega

end Node

namespace Fold

open Relation (ReflTransGen)

/-! ## 2. Sequences of folds -/

/-- Any folds one after the other: windows somewhere in the list, at any level. -/
abbrev Folds : List Node → List Node → Prop := ReflTransGen FoldStep

theorem FoldStep.append_right {xs xs' : List Node} (h : FoldStep xs xs') (ys : List Node) :
    FoldStep (xs ++ ys) (xs' ++ ys) := by
  obtain ⟨before, after, fits⟩ := h
  simpa using FoldStep.mk before (after ++ ys) fits

theorem FoldStep.append_left {ys ys' : List Node} (h : FoldStep ys ys') (xs : List Node) :
    FoldStep (xs ++ ys) (xs ++ ys') := by
  induction xs with
  | nil => exact h
  | cons x xs ih => exact ih.cons x

/-- What stands side by side folds side by side. -/
theorem folds_append {xs xs' ys ys' : List Node} (hxs : Folds xs xs') (hys : Folds ys ys') :
    Folds (xs ++ ys) (xs' ++ ys') :=
  (hxs.lift (· ++ ys) fun _ _ step => step.append_right ys).trans
    (hys.lift (xs' ++ ·) fun _ _ step => step.append_left xs')

/-- Two nodes are no window. -/
theorem settled_of_length {nodes : List Node} (h : nodes.length < 3) : Settled nodes := by
  rintro _ ⟨before, after, -⟩
  simp only [List.length_append, List.length_cons] at h
  omega

theorem FoldStep.endsAll {nodes nodes' : List Node} (h : FoldStep nodes nodes') :
    Node.endsAll nodes' = Node.endsAll nodes := by
  obtain ⟨before, after, -⟩ := h
  simp only [Node.endsAll_append, Node.endsAll, Node.ends_expression]
  omega

theorem endsAll_of_folds {nodes nodes' : List Node} (h : Folds nodes nodes') :
    Node.endsAll nodes' = Node.endsAll nodes := by
  induction h with
  | refl => rfl
  | tail _ step ih => exact step.endsAll.trans ih

/-- **Folding is one of the sequences of folds.** -/
theorem folds_foldAll {nodes : List Node} (known : AllKnown nodes) :
    Folds nodes (foldAll nodes).nodes :=
  (foldAll_induction (P := Folds nodes) (fun _ _ _ step folds => folds.tail step) known .refl).2

/-! ## 3. Spans -/

/-- The spans that the nodes of a folded list own: cut into them, the original list folds to these
nodes, each span to its own node. -/
structure Owned (nodes : List Node) (spans : List (List Node)) (folded : List Node) : Prop where
  whole : spans.flatten = nodes
  each : List.Forall₂ (fun span n => Folds span [n]) spans folded

/-- Two beginnings of one list that have the same number of ends are the same. -/
theorem eq_of_endsAll {u v u' v' : List Node} (same : u ++ v = u' ++ v')
    (h : Node.endsAll u = Node.endsAll u') : u = u' := by
  rcases List.append_eq_append_iff.mp same with ⟨w, rfl, -⟩ | ⟨w, rfl, -⟩
  · rw [Node.endsAll_append] at h
    have nothing : w = [] := Node.eq_nil_of_endsAll (by omega)
    rw [nothing, List.append_nil]
  · rw [Node.endsAll_append] at h
    have nothing : w = [] := Node.eq_nil_of_endsAll (by omega)
    rw [nothing, List.append_nil]

/-- **A list is cut into spans in one way only.** -/
theorem Owned.unique {nodes folded : List Node} {spans spans' : List (List Node)}
    (h : Owned nodes spans folded) (h' : Owned nodes spans' folded) : spans' = spans := by
  obtain ⟨whole, each⟩ := h
  obtain ⟨whole', each'⟩ := h'
  induction each generalizing spans' nodes with
  | nil =>
    cases each'
    rfl
  | @cons span n spans folded first _ ih =>
    cases each' with
    | @cons span' _ spans' _ first' rest' =>
      have ends : Node.endsAll span' = Node.endsAll span :=
        (endsAll_of_folds first').symm.trans (endsAll_of_folds first)
      obtain rfl : span' = span := eq_of_endsAll (whole'.trans whole.symm) ends
      have later : spans'.flatten = spans.flatten :=
        List.append_cancel_left (whole'.trans whole.symm)
      rw [ih rfl later rest']

/-! ## 4. Marks -/

/-- What counts of a node when the grouping of operator chains does not: its role, the span that it
owns and its flat tree. -/
@[ext] structure Mark where
  role : Role
  span : List Node
  flat : List Item

/-- The mark of three nodes that are folded. -/
def Mark.merged (x y z : Mark) : Mark where
  role := .operand
  span := x.span ++ (y.span ++ z.span)
  flat := if y.role = .operator then x.flat ++ (y.flat ++ z.flat)
    else [.enclosed (x.flat ++ (y.flat ++ z.flat))]

/-- A fold, seen in the marks. -/
inductive MarkStep : List Mark → List Mark → Prop
  | here {x y z : Mark} (window : IsWindow x.role y.role z.role) (rest : List Mark) :
      MarkStep (x :: y :: z :: rest) (x.merged y z :: rest)
  | there (x : Mark) {ms ms' : List Mark} (step : MarkStep ms ms') : MarkStep (x :: ms) (x :: ms')

/-- Two lists of marks that are the same or become so by one fold each. -/
def Joins (ms ms' : List Mark) : Prop :=
  ms = ms' ∨ ∃ joined, MarkStep ms joined ∧ MarkStep ms' joined

theorem Joins.symm {ms ms' : List Mark} (h : Joins ms ms') : Joins ms' ms := by
  rcases h with same | ⟨joined, left, right⟩
  · exact .inl same.symm
  · exact .inr ⟨joined, right, left⟩

theorem Joins.cons {ms ms' : List Mark} (h : Joins ms ms') (x : Mark) :
    Joins (x :: ms) (x :: ms') := by
  rcases h with same | ⟨joined, left, right⟩
  · exact .inl (same ▸ rfl)
  · exact .inr ⟨x :: joined, .there x left, .there x right⟩

/-- Two operators around one operand: it does not matter which takes it first. -/
theorem merged_assoc {x y z u v : Mark} (hy : y.role = .operator) (hu : u.role = .operator) :
    (x.merged y z).merged u v = x.merged y (z.merged u v) := by
  ext1
  · rfl
  · simp [Mark.merged]
  · simp [Mark.merged, hy, hu]

/-- No window begins at the second node of another. -/
theorem not_isWindow_of_isWindow {r₁ r₂ r₃ r₄ : Role} (h : IsWindow r₁ r₂ r₃) :
    ¬ IsWindow r₂ r₃ r₄ := by
  intro h'
  cases h <;> cases h'

/-- Windows that share one node share an operand between two operators. -/
theorem operators_of_isWindow {r₁ r₂ r₃ r₄ r₅ : Role} (h : IsWindow r₁ r₂ r₃)
    (h' : IsWindow r₃ r₄ r₅) :
    (r₁ = .operand ∧ r₂ = .operator) ∧ r₄ = .operator ∧ r₅ = .operand := by
  cases h with
  | parentheses => cases h'
  | operation =>
    cases h' with
    | operation => exact ⟨⟨rfl, rfl⟩, rfl, rfl⟩

/-- **Windows that overlap can be brought together.**  Of a window and a fold that begins behind its
first node, either they share an operand between two operators, or they do not overlap. -/
theorem joins_of_overlap {x y z : Mark} {rest ms : List Mark}
    (window : IsWindow x.role y.role z.role) (step : MarkStep (y :: z :: rest) ms) :
    Joins (x.merged y z :: rest) (x :: ms) := by
  right
  cases step with
  | here window' _ => exact absurd window' (not_isWindow_of_isWindow window)
  | there _ step =>
    cases step with
    | @here _ u v window' rest =>
      obtain ⟨⟨hx, hy⟩, hu, hv⟩ := operators_of_isWindow window window'
      refine ⟨(x.merged y z).merged u v :: rest, .here ?_ rest, ?_⟩
      · rw [hu, hv]
        exact .operation
      · rw [merged_assoc hy hu]
        refine .here ?_ rest
        rw [hx, hy]
        exact .operation
    | @there _ rest rest' step =>
      exact ⟨x.merged y z :: rest', .there _ step, .here window rest'⟩

/-- **Two folds of one list can be brought together again**, by one fold each. -/
theorem diamond {ms ms₁ ms₂ : List Mark} (h₁ : MarkStep ms ms₁) (h₂ : MarkStep ms ms₂) :
    Joins ms₁ ms₂ := by
  induction h₁ generalizing ms₂ with
  | here window rest =>
    cases h₂ with
    | here => exact .inl rfl
    | there _ step => exact joins_of_overlap window step
  | there x step ih =>
    cases h₂ with
    | here window => exact (joins_of_overlap window step).symm
    | there _ step' => exact (ih step').cons x

/-- What can not be folded on is all that folding can end in. -/
theorem eq_of_stuck {ms ms₁ ms₂ : List Mark} (h₁ : ReflTransGen MarkStep ms ms₁)
    (h₂ : ReflTransGen MarkStep ms ms₂) (stuck₁ : ∀ ms', ¬ MarkStep ms₁ ms')
    (stuck₂ : ∀ ms', ¬ MarkStep ms₂ ms') : ms₁ = ms₂ := by
  have local_join : ∀ a b c, MarkStep a b → MarkStep a c →
      ∃ d, Relation.ReflGen MarkStep b d ∧ ReflTransGen MarkStep c d := by
    intro a b c hb hc
    rcases diamond hb hc with rfl | ⟨d, hbd, hcd⟩
    · exact ⟨b, .refl, .refl⟩
    · exact ⟨d, .single hbd, .single hcd⟩
  have stays : ∀ {a b : List Mark},
      (∀ ms', ¬ MarkStep a ms') → ReflTransGen MarkStep a b → a = b := by
    intro a b stuck h
    rcases h.cases_head with same | ⟨next, step, -⟩
    · exact same
    · exact absurd step (stuck next)
  obtain ⟨d, h₁d, h₂d⟩ := Relation.church_rosser local_join h₁ h₂
  exact (stays stuck₁ h₁d).trans (stays stuck₂ h₂d).symm

/-! ## 5. Nodes and their marks -/

/-- The mark is that of a node which has been folded out of the span. -/
structure Stands (m : Mark) (n : Node) : Prop where
  role : m.role = role n
  folds : Folds m.span [n]
  flat : m.flat = n.flat

/-- The mark of a node of the original list. -/
def markOf (n : Node) : Mark := ⟨role n, [n], n.flat⟩

theorem stands_markOf (n : Node) : Stands (markOf n) n := ⟨rfl, .refl, rfl⟩

/-- The middle of a window is an operator, or it is an operand in parentheses. -/
theorem isSymbolAmong_iff_role (n : Node) :
    n.isSymbolAmong operators ↔ role n = .operator :=
  ⟨Expression.role_of_isSymbolAmong, Expression.isSymbolAmong_of_role⟩

/-- **A fold of nodes is a fold of their marks.** -/
theorem Stands.merged {level : Level} {x y z : Mark} {a b c : Node} (hx : Stands x a)
    (hy : Stands y b) (hz : Stands z c) (fits : level.fits a b c) :
    Stands (x.merged y z) (.expression a b c) := by
  refine ⟨?_, ?_, ?_⟩
  · exact (Expression.role_of_isOperand (Node.isOperand_expression a b c)).symm
  · have three : Folds (x.span ++ (y.span ++ z.span)) ([a] ++ ([b] ++ [c])) :=
      folds_append hx.folds (folds_append hy.folds hz.folds)
    exact three.tail (.mk [] [] fits)
  · rw [Node.flat_expression, Mark.merged, hx.flat, hy.flat, hz.flat, hy.role]
    simp only [isSymbolAmong_iff_role]

theorem exists_markStep {ms : List Mark} {nodes nodes' : List Node}
    (h : List.Forall₂ Stands ms nodes) (step : FoldStep nodes nodes') :
    ∃ ms', MarkStep ms ms' ∧ List.Forall₂ Stands ms' nodes' := by
  obtain ⟨before, after, fits⟩ := step
  induction before generalizing ms with
  | nil =>
    rcases h with _ | ⟨hx, _ | ⟨hy, _ | ⟨hz, rest⟩⟩⟩
    refine ⟨_, .here ?_ _, .cons (hx.merged hy hz fits) rest⟩
    rw [hx.role, hy.role, hz.role]
    exact Expression.isWindow_of_fits fits
  | cons n before ih =>
    rcases h with _ | ⟨hn, h⟩
    obtain ⟨ms', step, stand⟩ := ih h
    exact ⟨_, .there _ step, .cons hn stand⟩

theorem exists_foldStep {ms ms' : List Mark} {nodes : List Node}
    (h : List.Forall₂ Stands ms nodes) (step : MarkStep ms ms') :
    ∃ nodes', FoldStep nodes nodes' := by
  induction step generalizing nodes with
  | here window rest =>
    rcases h with _ | ⟨hx, _ | ⟨hy, _ | ⟨hz, -⟩⟩⟩
    rw [hx.role, hy.role, hz.role] at window
    exact ⟨_, Expression.foldStep_of_isWindow _ window⟩
  | there x _ ih =>
    rcases h with _ | ⟨-, h⟩
    obtain ⟨nodes', step⟩ := ih h
    exact ⟨_, step.cons _⟩

theorem MarkStep.flatMap_span {ms ms' : List Mark} (h : MarkStep ms ms') :
    ms'.flatMap Mark.span = ms.flatMap Mark.span := by
  induction h with
  | here => simp [Mark.merged]
  | there x _ ih => rw [List.flatMap_cons, List.flatMap_cons, ih]

/-- **A sequence of folds leaves marks that own the original list.** -/
theorem exists_marks {nodes folded : List Node} (h : Folds nodes folded) :
    ∃ ms, ReflTransGen MarkStep (nodes.map markOf) ms ∧ List.Forall₂ Stands ms folded
      ∧ ms.flatMap Mark.span = nodes := by
  induction h with
  | refl =>
    refine ⟨_, .refl, ?_, by simp [List.flatMap_map, markOf]⟩
    exact List.forall₂_map_left_iff.mpr (List.forall₂_same.mpr fun n _ => stands_markOf n)
  | tail _ step ih =>
    obtain ⟨ms, run, stand, whole⟩ := ih
    obtain ⟨ms', next, stand'⟩ := exists_markStep stand step
    exact ⟨ms', run.tail next, stand', next.flatMap_span.trans whole⟩

theorem owned_of_stands {ms : List Mark} {nodes folded : List Node}
    (stand : List.Forall₂ Stands ms folded) (whole : ms.flatMap Mark.span = nodes) :
    Owned nodes (ms.map Mark.span) folded :=
  ⟨whole, List.forall₂_map_left_iff.mpr (stand.imp fun _ _ h => h.folds)⟩

theorem map_flat_of_stands {ms : List Mark} {folded : List Node}
    (stand : List.Forall₂ Stands ms folded) : folded.map Node.flat = ms.map Mark.flat := by
  induction stand with
  | nil => rfl
  | cons h _ ih => rw [List.map_cons, List.map_cons, ih, h.flat]

/-! ## 6. All ends of folding -/

/-- **All that folding can end in has the same marks.** -/
theorem exists_marks_of_settled {nodes final : List Node} (known : AllKnown nodes)
    (folds : Folds nodes final) (settled : Settled final) :
    ∃ ms, ms.flatMap Mark.span = nodes ∧ List.Forall₂ Stands ms final
      ∧ List.Forall₂ Stands ms (foldAll nodes).nodes := by
  obtain ⟨ms, run, stand, whole⟩ := exists_marks folds
  obtain ⟨ms', run', stand', -⟩ := exists_marks (folds_foldAll known)
  have same : ms = ms' := by
    refine eq_of_stuck run run' ?_ ?_
    · intro next step
      obtain ⟨nodes', step⟩ := exists_foldStep stand step
      exact settled nodes' step
    · intro next step
      obtain ⟨nodes', step⟩ := exists_foldStep stand' step
      exact settled_foldAll known nodes' step
  exact ⟨ms, whole, stand, same ▸ stand'⟩

/-- **Whatever the order of folds**, if no window is left, then the nodes are as many as folding
leaves; there is one way to cut the original list into the spans that they own; folding leaves the
owners of the same spans; and one by one they are the same trees but for the grouping of operator
chains. -/
theorem spans_in_any_order {nodes final : List Node} (known : AllKnown nodes)
    (folds : Folds nodes final) (settled : Settled final) :
    final.length = (foldAll nodes).nodes.length
      ∧ (∃! spans, Owned nodes spans final)
      ∧ (∀ spans, Owned nodes spans final ↔ Owned nodes spans (foldAll nodes).nodes)
      ∧ final.map Node.flat = (foldAll nodes).nodes.map Node.flat := by
  obtain ⟨ms, whole, stand, stand'⟩ := exists_marks_of_settled known folds settled
  have owned := owned_of_stands stand whole
  have owned' := owned_of_stands stand' whole
  refine ⟨?_, ⟨_, owned, fun spans other => owned.unique other⟩, fun spans => ⟨?_, ?_⟩, ?_⟩
  · exact stand.length_eq.symm.trans stand'.length_eq
  · intro other
    rwa [owned.unique other]
  · intro other
    rwa [owned'.unique other]
  · rw [map_flat_of_stands stand, map_flat_of_stands stand']

/-- A sum folded before the product in it, and a parenthesis that nothing opened. -/
theorem spans_in_any_order_sum_first :
    let chain : List Node := [.leaf .identifier "A", .leaf .symbol "+", .leaf .identifier "B",
      .leaf .symbol "*", .leaf .number "2"]
    let closing : Node := .leaf .symbol ")"
    Owned (chain ++ [closing]) [chain, [closing]] (foldAll (chain ++ [closing])).nodes := by
  intro chain closing
  have known : AllKnown (chain ++ [closing]) := by
    simp [AllKnown, chain, closing, Node.leaf, Node.Known]
  let sum : Node := .expression (.leaf .identifier "A") (.leaf .symbol "+") (.leaf .identifier "B")
  let product : Node := .expression sum (.leaf .symbol "*") (.leaf .number "2")
  have first : FoldStep chain [sum, .leaf .symbol "*", .leaf .number "2"] :=
    @FoldStep.mk .sum _ _ _ [] _ rfl
  have second : FoldStep [sum, .leaf .symbol "*", .leaf .number "2"] [product] :=
    @FoldStep.mk .product _ _ _ [] [] rfl
  have folds : Folds chain [product] := .head first (.single second)
  have all : Folds (chain ++ [closing]) ([product] ++ [closing]) := folds_append folds .refl
  have owned : Owned (chain ++ [closing]) [chain, [closing]] ([product] ++ [closing]) :=
    ⟨rfl, .cons folds (.cons .refl .nil)⟩
  exact ((spans_in_any_order known all (settled_of_length (by decide))).2.2.1 _).mp owned

end Fold

end LineBasic
