/-
# A level in one pass

Folding at a level starts again at the beginning of the list after every fold.  The same comes out
of one pass from left to right over a stack: each node is put on the stack, and as long as the three
nodes on top are a window of the level, they are folded into one (`push`, `scan`).

**The leftmost window is always on top** (`foldLevel_settle`).  The stack below holds no window, so
in the whole list the first window can only be the one that the new node completes; and the node
that a fold puts in its place may complete another one, again at the top.  A fold never reaches
further to the left than the stack sees: whatever it makes possible is made possible on top.

Nothing in this depends on the kinds of the nodes.  `pass` is the stack with everything that folding
reports, and it agrees with folding **on every list** (`foldLevel_eq_pass`): the same windows are
folded in the same order, and where a test ends in a fault, both stop at that test with the same
list.  Known nodes cannot end in a fault, and `scan` is what is left of `pass` on them.

A pass can be cut anywhere (`scan_append`), which folding with restarts does not show.
-/
import LineBasic.Proofs.Folding

namespace LineBasic.Fold

/-! ## 1. The stack -/

/-- Puts a node on a stack and folds the nodes on top as long as they are a window.  The top of the
stack comes first. -/
def push (level : Level) (n : Node) : List Node → List Node
  | b :: a :: rest =>
    if level.fits a b n then push level (.expression a b n) rest else n :: b :: a :: rest
  | [b] => [n, b]
  | [] => [n]

/-- Puts nodes on a stack one after the other. -/
def scan (level : Level) (stack nodes : List Node) : List Node :=
  nodes.foldl (fun stack n => push level n stack) stack

variable {level : Level} {nodes stack : List Node} {n : Node}

@[simp] theorem scan_nil : scan level stack [] = stack := rfl

@[simp] theorem scan_cons (nodes : List Node) :
    scan level stack (n :: nodes) = scan level (push level n stack) nodes := rfl

@[simp] theorem scan_append (xs ys : List Node) :
    scan level stack (xs ++ ys) = scan level (scan level stack xs) ys := List.foldl_append

/-- A node that completes no window stays on top. -/
theorem push_of_forall (h : ∀ a b, level.fits a b n = false) : push level n stack = n :: stack := by
  rcases stack with _ | ⟨b, _ | ⟨a, rest⟩⟩
  · rfl
  · rfl
  · simp [push, h]

/-! ## 2. The stack and what it reports -/

/-- Puts a node on a stack and folds the nodes on top as long as the test finds a window there.  The
nodes of the result are the stack. -/
def settle (level : Level) (n : Node) : List Node → Result
  | b :: a :: below =>
    match level.matches ⟨a, b, n⟩ with
    | .error fault => ⟨n :: b :: a :: below, [], some fault⟩
    | .ok true =>
      let r := settle level (.expression a b n) below
      { r with windows := ⟨a, b, n⟩ :: r.windows }
    | .ok false => ⟨n :: b :: a :: below, [], none⟩
  | below => ⟨n :: below, [], none⟩

/-- The list that begins with the nodes of a stack, from its bottom to its top. -/
def Result.followedBy (r : Result) (rest : List Node) : Result :=
  { r with nodes := r.nodes.reverse ++ rest }

/-- Puts nodes on a stack one after the other, up to the first fault. -/
def pass (level : Level) (stack : List Node) : List Node → Result
  | [] => ⟨stack.reverse, [], none⟩
  | n :: rest =>
    let r := settle level n stack
    (r.followedBy rest).andThen fun _ => pass level r.nodes rest

/-! ## 3. The search for a window -/

theorem foldLevel_of_error {fault : Fault} (h : foldFirst level nodes = .error fault) :
    foldLevel level nodes = ⟨nodes, [], some fault⟩ := by
  rw [foldLevel]
  split <;> simp_all

theorem foldLevel_of_none (h : foldFirst level nodes = .ok none) :
    foldLevel level nodes = ⟨nodes, [], none⟩ := by
  rw [foldLevel]
  split <;> simp_all

theorem foldLevel_of_some {w : Window} {folded : List Node}
    (h : foldFirst level nodes = .ok (some (w, folded))) :
    foldLevel level nodes
      = { foldLevel level folded with windows := w :: (foldLevel level folded).windows } := by
  rw [foldLevel]
  split <;> simp_all

/-- A level that ends without a fault ends because no window is found. -/
theorem foldFirst_foldLevel (h : (foldLevel level nodes).fault = none) :
    foldFirst level (foldLevel level nodes).nodes = .ok none := by
  fun_induction foldLevel level nodes with
  | case1 => cases h
  | case2 nodes none => exact none
  | case3 nodes w folded _ _ r ih => exact ih h

theorem exists_cons_cons (before : List Node) (a b : Node) :
    ∃ y z tail, before ++ [a, b] = y :: z :: tail := by
  rcases before with _ | ⟨y, _ | ⟨z, before⟩⟩
  · exact ⟨a, b, [], rfl⟩
  · exact ⟨y, a, [b], rfl⟩
  · exact ⟨y, z, before ++ [a, b], rfl⟩

/-- Where the first test fails, the search goes on behind the first node. -/
theorem foldFirst_cons {x y z : Node} {tail : List Node} (h : level.matches ⟨x, y, z⟩ = .ok false) :
    foldFirst level (x :: y :: z :: tail)
      = (foldFirst level (y :: z :: tail)).map (Option.map (Prod.map id (x :: ·))) := by
  rw [foldFirst, h]
  rcases foldFirst level (y :: z :: tail) with fault | _ | found <;> rfl

/-- Where nothing is found, the first test fails. -/
theorem matches_of_foldFirst_eq_none {x y z : Node} {tail : List Node}
    (h : foldFirst level (x :: y :: z :: tail) = .ok none) :
    level.matches ⟨x, y, z⟩ = .ok false ∧ foldFirst level (y :: z :: tail) = .ok none := by
  rw [foldFirst] at h
  split at h
  · cases h
  · cases h
  · rename_i test
    refine ⟨test, ?_⟩
    split at h
    · cases h
    · assumption
    · cases h

/-- **A part without windows is passed over**: the search behind it finds what it would find if that
part were not there. -/
theorem foldFirst_append {before : List Node} {a b : Node}
    (nothing : foldFirst level (before ++ [a, b]) = .ok none) (after : List Node) :
    foldFirst level (before ++ a :: b :: after)
      = (foldFirst level (a :: b :: after)).map (Option.map (Prod.map id (before ++ ·))) := by
  induction before with
  | nil =>
    rw [List.nil_append]
    rcases foldFirst level (a :: b :: after) with fault | _ | found <;> rfl
  | cons x before ih =>
    obtain ⟨y, z, tail, front⟩ := exists_cons_cons before a b
    have whole : before ++ a :: b :: after = y :: z :: (tail ++ after) := by
      rw [← List.cons_append, ← List.cons_append, ← front, List.append_assoc]
      rfl
    rw [List.cons_append, front] at nothing
    obtain ⟨test, later⟩ := matches_of_foldFirst_eq_none nothing
    rw [List.cons_append, whole, foldFirst_cons test, ← whole, ih (front ▸ later)]
    rcases foldFirst level (a :: b :: after) with fault | _ | found <;> rfl

theorem foldFirst_eq_none_of_append {xs ys : List Node}
    (h : foldFirst level (xs ++ ys) = .ok none) :
    foldFirst level xs = .ok none := by
  induction xs with
  | nil => rfl
  | cons x xs ih =>
    rcases xs with _ | ⟨y, _ | ⟨z, xs⟩⟩
    · rfl
    · rfl
    · obtain ⟨test, later⟩ := matches_of_foldFirst_eq_none h
      rw [foldFirst_cons test, ih later]
      rfl

/-! ## 4. The window on top is the leftmost -/

theorem andThen_window (r : Result) (w : Window) (next : List Node → Result) :
    ({ r with windows := w :: r.windows } : Result).andThen next
      = { r.andThen next with windows := w :: (r.andThen next).windows } := by
  rcases r with ⟨nodes, windows, _ | fault⟩ <;> rfl

/-- **One node.**  Folding with restarts begins with what a stack without windows does with the next
node, and that leaves a stack without windows, unless there was a fault. -/
theorem foldLevel_settle (nothing : foldFirst level stack.reverse = .ok none) (rest : List Node) :
    foldLevel level (stack.reverse ++ n :: rest)
        = ((settle level n stack).followedBy rest).andThen (foldLevel level)
      ∧ ((settle level n stack).fault = none →
          foldFirst level (settle level n stack).nodes.reverse = .ok none) := by
  have top (a b : Node) (below after : List Node) :
      (b :: a :: below).reverse ++ after = below.reverse ++ a :: b :: after := by simp
  -- in the first three cases the stack is passed over, and the test of the window on top decides
  fun_induction settle level n stack with
  | case1 n b a below fault test =>
    have found : foldFirst level (below.reverse ++ a :: b :: n :: rest) = .error fault := by
      rw [foldFirst_append (by simpa using nothing), foldFirst, test]
      rfl
    refine ⟨?_, fun none => by cases none⟩
    rw [top, foldLevel_of_error found]
    simp [Result.andThen, Result.followedBy]
  | case2 n b a below test r ih =>
    have found : foldFirst level (below.reverse ++ a :: b :: n :: rest)
        = .ok (some (⟨a, b, n⟩, below.reverse ++ .expression a b n :: rest)) := by
      rw [foldFirst_append (by simpa using nothing), foldFirst, test]
      rfl
    have nothing_below : foldFirst level below.reverse = .ok none := by
      rw [List.reverse_cons, List.reverse_cons, List.append_assoc] at nothing
      exact foldFirst_eq_none_of_append nothing
    obtain ⟨later, nothing_after⟩ := ih nothing_below
    refine ⟨?_, nothing_after⟩
    rw [top, foldLevel_of_some found, later, ← andThen_window]
    rfl
  | case3 n b a below test =>
    refine ⟨by simp [Result.andThen, Result.followedBy], fun _ => ?_⟩
    rw [List.reverse_cons, top, foldFirst_append (by simpa using nothing), foldFirst, test]
    rfl
  | case4 n below short =>
    refine ⟨by simp [Result.andThen, Result.followedBy], fun _ => ?_⟩
    rcases below with _ | ⟨b, _ | ⟨a, below⟩⟩
    · rfl
    · rfl
    · exact absurd rfl (short b a below)

/-- **All nodes.** -/
theorem foldLevel_append_eq_pass (nothing : foldFirst level stack.reverse = .ok none)
    (nodes : List Node) : foldLevel level (stack.reverse ++ nodes) = pass level stack nodes := by
  induction nodes generalizing stack with
  | nil =>
    rw [List.append_nil, foldLevel_of_none nothing]
    rfl
  | cons n rest ih =>
    obtain ⟨first, nothing_after⟩ := foldLevel_settle nothing rest
    rw [first, pass]
    cases fault : (settle level n stack).fault with
    | some fault => simp [Result.andThen, Result.followedBy, fault]
    | none => simp [Result.andThen, Result.followedBy, fault, ih (nothing_after fault)]

/-! ## 5. Known nodes -/

/-- On known nodes the test is a matter of windows alone. -/
theorem settle_of_known (known : AllKnown (n :: stack)) :
    (settle level n stack).nodes = push level n stack ∧ (settle level n stack).fault = none
      ∧ AllKnown (push level n stack) := by
  fun_induction push level n stack with
  | case1 n b a below fits ih =>
    have test := matches_of_known (known a (by simp)) (known b (by simp)) (known n (by simp)) level
    rw [fits] at test
    rw [settle, test]
    refine ih fun m hm => ?_
    rcases List.mem_cons.mp hm with rfl | hm
    · exact Node.known_expression a b n
    · exact known m (by simp [hm])
  | case2 n b a below fits =>
    have test := matches_of_known (known a (by simp)) (known b (by simp)) (known n (by simp)) level
    rw [Bool.eq_false_iff.mpr fits] at test
    rw [settle, test]
    exact ⟨rfl, rfl, known⟩
  | case3 n b => exact ⟨rfl, rfl, known⟩
  | case4 n => exact ⟨rfl, rfl, known⟩

theorem nodes_pass_of_known (known : AllKnown (stack ++ nodes)) :
    (pass level stack nodes).nodes = (scan level stack nodes).reverse := by
  induction nodes generalizing stack with
  | nil => rfl
  | cons n rest ih =>
    have here : AllKnown (n :: stack) := by
      intro m hm
      rcases List.mem_cons.mp hm with rfl | hm
      · exact known m (by simp)
      · exact known m (by simp [hm])
    obtain ⟨pushed, quiet, known_after⟩ := settle_of_known here
    have later : AllKnown (push level n stack ++ rest) := by
      intro m hm
      rcases List.mem_append.mp hm with hm | hm
      · exact known_after m hm
      · exact known m (by simp [hm])
    rw [scan_cons, ← ih later]
    simp [pass, Result.andThen, Result.followedBy, quiet, pushed]

/-- **Folding at a level is one pass over a stack.** -/
theorem nodes_foldLevel_eq_scan (level : Level) (known : AllKnown nodes) :
    (foldLevel level nodes).nodes = (scan level [] nodes).reverse := by
  have whole : foldLevel level nodes = pass level [] nodes :=
    @foldLevel_append_eq_pass level [] rfl nodes
  rw [whole]
  exact @nodes_pass_of_known level nodes [] known

/-- **Restarts are not needed.**  Folding the leftmost window again and again from the beginning of
the list, and one pass over a stack, come to the same on every list: the same trees, the same
windows folded in the same order, and the same fault if there is one.  If all nodes are known there
is none, folding ends because no window is found any more, and the trees are those of the stack that
folds its three top nodes as long as they are a window. -/
theorem foldLevel_eq_pass (level : Level) (nodes : List Node) :
    foldLevel level nodes = pass level [] nodes
      ∧ (AllKnown nodes →
          (foldLevel level nodes).fault = none
            ∧ foldFirst level (foldLevel level nodes).nodes = .ok none
            ∧ (foldLevel level nodes).nodes = (scan level [] nodes).reverse) := by
  refine ⟨@foldLevel_append_eq_pass level [] rfl nodes, fun known => ?_⟩
  have noFault := fault_foldLevel level known
  exact ⟨noFault, foldFirst_foldLevel noFault, nodes_foldLevel_eq_scan level known⟩

/-- Parentheses in parentheses: the second fold opens to the left of the first.  A string and a
parenthesis that stays open are in between. -/
theorem foldLevel_eq_pass_nested :
    let opening := Node.leaf .symbol "("
    let closing := Node.leaf .symbol ")"
    let x := Node.leaf .identifier "X"
    let text := Node.leaf .string "\")\""
    let nodes := [opening, opening, opening, x, closing, closing, text, opening, x, closing]
    AllKnown nodes
      ∧ (foldLevel .parenthesis nodes).nodes
        = [opening, .expression opening (.expression opening x closing) closing, text,
            .expression opening x closing] := by
  intro opening closing x text nodes
  have known : AllKnown nodes := by
    intro n hn
    simp only [nodes, List.mem_cons, List.not_mem_nil, or_false] at hn
    rcases hn with rfl | rfl | rfl | rfl | rfl | rfl | rfl | rfl | rfl | rfl <;> exact trivial
  exact ⟨known, ((foldLevel_eq_pass .parenthesis nodes).2 known).2.2.trans rfl⟩

end LineBasic.Fold
