/-
# Leaves and grown trees

Folding only puts nodes together, so it can be watched through the leaves: read from left to right
they stay what they were (`leavesAll_foldAll`), and every node of a folded list has grown out of
leaves, one window at a time (`Grown`, `allGrown_foldAll`).

Grown trees can be spelled: each leaf with a blank behind it, whatever the shape of the tree
(`spellAll_of_grown`).
-/
import LineBasic.Proofs.Folding
import LineBasic.Source

namespace LineBasic

/-! ## 1. Leaves -/

namespace Node

mutual

/-- The leaves of a tree, from left to right. -/
def leaves : Node → List Node
  | hole => []
  | mk kind value children =>
    match kind with
    | .program | .line | .expression => leavesAll children
    | _ => [mk kind value children]

/-- The leaves of a list of trees. -/
def leavesAll : List Node → List Node
  | [] => []
  | n :: ns => leaves n ++ leavesAll ns

end

@[simp] theorem leavesAll_nil : leavesAll [] = [] := rfl

@[simp] theorem leavesAll_cons (n : Node) (ns : List Node) :
    leavesAll (n :: ns) = n.leaves ++ leavesAll ns := rfl

@[simp] theorem leaves_expression (a b c : Node) :
    (expression a b c).leaves = a.leaves ++ (b.leaves ++ c.leaves) := by
  show leavesAll [a, b, c] = _
  simp

@[simp] theorem leavesAll_append (ms ns : List Node) :
    leavesAll (ms ++ ns) = leavesAll ms ++ leavesAll ns := by
  induction ms with
  | nil => rfl
  | cons m ms ih => simp [ih]

end Node

/-- The kind of a node that carries a token. -/
def Kind.carriesToken : Kind → Bool
  | .lineNumber | .statementName | .string | .number | .float | .identifier | .symbol => true
  | _ => false

theorem Node.leaves_leaf {kind : Kind} (h : kind.carriesToken) (value : String) :
    (Node.leaf kind value).leaves = [Node.leaf kind value] := by
  cases kind <;> first | rfl | cases h

/-! ## 2. Grown trees -/

namespace Fold

/-- A tree that folding makes out of leaves: a leaf, or a window of grown trees. -/
inductive Grown : Node → Prop
  | leaf {kind : Kind} (value : String) (h : kind.carriesToken) : Grown (.leaf kind value)
  | window {level : Level} {a b c : Node} (fits : level.fits a b c) (ha : Grown a) (hb : Grown b)
      (hc : Grown c) : Grown (.expression a b c)

/-- All nodes are grown trees. -/
def AllGrown (nodes : List Node) : Prop := ∀ n ∈ nodes, Grown n

theorem Grown.known {n : Node} (h : Grown n) : n.Known := by
  cases h with
  | @leaf kind _ h => cases kind <;> trivial
  | window => exact Node.known_expression _ _ _

theorem AllGrown.known {nodes : List Node} (h : AllGrown nodes) : AllKnown nodes :=
  fun n hn => (h n hn).known

theorem FoldStep.allGrown {nodes nodes' : List Node} (h : FoldStep nodes nodes')
    (grown : AllGrown nodes) : AllGrown nodes' := by
  obtain ⟨before, after, fits⟩ := h
  intro n hn
  rcases List.mem_append.mp hn with hn | hn
  · exact grown n (by simp [hn])
  · rcases List.mem_cons.mp hn with rfl | hn
    · exact .window fits (grown _ (by simp)) (grown _ (by simp)) (grown _ (by simp))
    · exact grown n (by simp [hn])

theorem FoldStep.leavesAll {nodes nodes' : List Node} (h : FoldStep nodes nodes') :
    Node.leavesAll nodes' = Node.leavesAll nodes := by
  obtain ⟨before, after, fits⟩ := h
  simp

/-- **Folding lets trees grow.** -/
theorem allGrown_foldAll {nodes : List Node} (h : AllGrown nodes) :
    AllGrown (foldAll nodes).nodes :=
  (foldAll_induction (fun _ _ _ step grown => step.allGrown grown) h.known h).2

/-- **Folding keeps the leaves and their order.** -/
theorem leavesAll_foldAll {nodes : List Node} (h : AllKnown nodes) :
    Node.leavesAll (foldAll nodes).nodes = Node.leavesAll nodes :=
  (foldAll_induction (P := fun ns => Node.leavesAll ns = Node.leavesAll nodes)
    (fun _ _ _ step same => step.leavesAll.trans same) h rfl).2

end Fold

/-! ## 3. Spelling -/

/-- Leaves one after the other, a blank behind each. -/
def spelling (leaves : List Node) : String := String.join (leaves.map fun n => n.value ++ " ")

theorem spelling_append (ms ns : List Node) :
    spelling (ms ++ ns) = spelling ms ++ spelling ns := by
  simp [spelling, String.join_append]

namespace Fold

theorem spell_of_grown {n : Node} (h : Grown n) : n.spell = .ok (spelling n.leaves) := by
  induction h with
  | @leaf kind value h =>
    rw [Node.leaves_leaf h]
    cases kind <;> first | rfl | cases h
  | @window _ a b c _ _ _ _ ha hb hc =>
    rw [Node.leaves_expression, spelling_append, spelling_append]
    show Node.spellAll [a, b, c] = _
    simp only [Node.spellAll, ha, hb, hc]
    simp [bind, Except.bind, pure, Except.pure]

/-- **The spelling of grown trees depends on their leaves alone.** -/
theorem spellAll_of_grown {nodes : List Node} (h : AllGrown nodes) :
    Node.spellAll nodes = .ok (spelling (Node.leavesAll nodes)) := by
  induction nodes with
  | nil => rfl
  | cons n ns ih =>
    have first := spell_of_grown (h n (by simp))
    have rest := ih fun m hm => h m (by simp [hm])
    rw [Node.spellAll, first, rest, Node.leavesAll_cons, spelling_append]
    rfl

end Fold

/-! ## 4. Classified tokens -/

namespace Source

theorem carriesToken_kindOf (first : Bool) (token : String) :
    (kindOf first token).carriesToken := by
  unfold kindOf
  split_ifs <;> rfl

theorem grown_classify (first : Bool) (token : String) : Fold.Grown (classify first token) :=
  .leaf token (carriesToken_kindOf first token)

theorem allGrown_map_classify (tokens : List String) :
    Fold.AllGrown (tokens.map (classify false)) := by
  intro n hn
  obtain ⟨t, -, rfl⟩ := List.mem_map.mp hn
  exact grown_classify false t

@[simp] theorem leaves_classify (first : Bool) (token : String) :
    (classify first token).leaves = [classify first token] :=
  Node.leaves_leaf (carriesToken_kindOf first token) token

theorem leavesAll_map_classify (tokens : List String) :
    Node.leavesAll (tokens.map (classify false)) = tokens.map (classify false) := by
  induction tokens with
  | nil => rfl
  | cons t ts ih => simp [ih]

end Source

end LineBasic
