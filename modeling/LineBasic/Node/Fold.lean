/-
# Folding

Folding turns a list of nodes into expressions.  A window is three adjacent nodes: a value, an
operator and a value, or a value in parentheses.  A fold replaces a window by one expression
that owns its three nodes.

Folds go by level, `*` and `/` first, then `+` and `-`, then `^`, then parentheses.  At each
level the leftmost window is folded, again and again from the start of the list, until there
is none; a round takes the levels in turn, and rounds follow as long as one folds something.

**Termination.**  A fold removes two nodes (`length_of_foldFirst`), so both the loop at a level
and the loop of rounds are bounded by the length of the list.

A test for a value may meet a node of unknown kind, or an operator test an empty place.
Folding then ends in a fault, and the folds done before it stand.
-/
import LineBasic.Node
import LineBasic.Notice

namespace LineBasic.Fold

/-! ## 1. Windows -/

/-- The levels of folding, tightest first. -/
inductive Level where
  | product
  | sum
  | power
  | parenthesis
  deriving DecidableEq, Repr

/-- The operators of a level. -/
def Level.operators : Level → List String
  | .product => ["*", "/"]
  | .sum => ["+", "-"]
  | .power => ["^"]
  | .parenthesis => []

/-- Three adjacent nodes. -/
structure Window where
  left : Node
  middle : Node
  right : Node
  deriving Repr

/-- The expression that takes the place of a window. -/
def Window.folded (w : Window) : Node := .expression w.left w.middle w.right

/-- The node is a symbol among the given operators. -/
def isOperator (operators : List String) : Node → Except Fault Bool
  | .hole => .error .emptyPlace
  | .mk kind value _ => .ok (kind = .symbol && operators.contains value)

/-- Both tests hold; the second is made only if the first does. -/
def both (a b : Except Fault Bool) : Except Fault Bool :=
  match a with
  | .ok true => b
  | _ => a

/-- The window is one of the level. -/
def Level.matches (level : Level) (w : Window) : Except Fault Bool :=
  match level with
  | .parenthesis =>
    both (.ok (w.left.isSymbol "(")) (both w.middle.isValue (.ok (w.right.isSymbol ")")))
  | _ =>
    both (isOperator level.operators w.middle) (both w.left.isValue w.right.isValue)

/-! ## 2. One fold -/

/-- The leftmost window of a level and the list with that window folded, if there is one. -/
def foldFirst (level : Level) : List Node → Except Fault (Option (Window × List Node))
  | a :: b :: c :: rest =>
    match level.matches ⟨a, b, c⟩ with
    | .error fault => .error fault
    | .ok true => .ok (some (⟨a, b, c⟩, Node.expression a b c :: rest))
    | .ok false =>
      match foldFirst level (b :: c :: rest) with
      | .error fault => .error fault
      | .ok none => .ok none
      | .ok (some (w, nodes)) => .ok (some (w, a :: nodes))
  | _ => .ok none

/-- A fold removes two nodes. -/
theorem length_of_foldFirst {level : Level} {nodes folded : List Node} {w : Window}
    (h : foldFirst level nodes = .ok (some (w, folded))) :
    folded.length + 2 = nodes.length := by
  induction nodes generalizing w folded with
  | nil => simp [foldFirst] at h
  | cons a tail ih =>
    match tail with
    | [] => simp [foldFirst] at h
    | [b] => simp [foldFirst] at h
    | b :: c :: rest =>
      rw [foldFirst] at h
      split at h
      · simp at h
      · simp only [Except.ok.injEq, Option.some.injEq, Prod.mk.injEq] at h
        simp [← h.2]
      · split at h
        · simp at h
        · simp at h
        · rename_i v nodes found
          simp only [Except.ok.injEq, Option.some.injEq, Prod.mk.injEq] at h
          have := ih found
          simp only [← h.2, List.length_cons] at this ⊢
          omega

/-! ## 3. Folding to a fixpoint -/

/-- What folding a list came to. -/
structure Result where
  nodes : List Node
  /-- The windows that were folded, in order. -/
  windows : List Window
  /-- Why folding stopped before its end, if it did. -/
  fault : Option Fault

/-- Goes on folding, unless there was a fault. -/
def Result.andThen (r : Result) (next : List Node → Result) : Result :=
  match r.fault with
  | some _ => r
  | none =>
    let n := next r.nodes
    { n with windows := r.windows ++ n.windows }

/-- Folds the leftmost window of a level until there is none. -/
def foldLevel (level : Level) (nodes : List Node) : Result :=
  match h : foldFirst level nodes with
  | .error fault => ⟨nodes, [], some fault⟩
  | .ok none => ⟨nodes, [], none⟩
  | .ok (some (w, folded)) =>
    have : folded.length < nodes.length := by
      have := length_of_foldFirst h
      omega
    let r := foldLevel level folded
    { r with windows := w :: r.windows }
termination_by nodes.length

/-- The levels in turn. -/
def foldRound (nodes : List Node) : Result :=
  (((foldLevel .product nodes).andThen (foldLevel .sum)).andThen (foldLevel .power)).andThen
    (foldLevel .parenthesis)

/-- Each window folded at a level takes two nodes. -/
theorem length_foldLevel (level : Level) (nodes : List Node) :
    (foldLevel level nodes).nodes.length + 2 * (foldLevel level nodes).windows.length
      = nodes.length := by
  fun_induction foldLevel level nodes with
  | case1 => simp
  | case2 => simp
  | case3 nodes w folded h _ r ih =>
    have := length_of_foldFirst h
    have : r.nodes.length + 2 * r.windows.length = folded.length := ih
    simp only [List.length_cons]
    omega

theorem length_andThen {r : Result} {n : Nat} {next : List Node → Result}
    (hr : r.nodes.length + 2 * r.windows.length = n)
    (hn : ∀ nodes, (next nodes).nodes.length + 2 * (next nodes).windows.length = nodes.length) :
    (r.andThen next).nodes.length + 2 * (r.andThen next).windows.length = n := by
  unfold Result.andThen
  split
  · exact hr
  · have := hn r.nodes
    simp only [List.length_append]
    omega

/-- Each window folded in a round takes two nodes. -/
theorem length_foldRound (nodes : List Node) :
    (foldRound nodes).nodes.length + 2 * (foldRound nodes).windows.length = nodes.length :=
  length_andThen (length_andThen (length_andThen (length_foldLevel _ _) (length_foldLevel _))
    (length_foldLevel _)) (length_foldLevel _)

/-- Rounds as long as one folds something. -/
def foldAll (nodes : List Node) : Result :=
  let r := foldRound nodes
  if h : r.windows = [] then r
  else if r.fault.isSome then r
  else
    have : r.nodes.length < nodes.length := by
      have : r.nodes.length + 2 * r.windows.length = nodes.length := length_foldRound nodes
      have := List.length_pos_iff.mpr h
      omega
    let later := foldAll r.nodes
    { later with windows := r.windows ++ later.windows }
termination_by nodes.length

/-- What is reported of a fold. -/
def Window.notice (w : Window) : Notice :=
  ⟨.grammar, .debug,
    "fold " ++ w.left.value ++ " " ++ w.middle.value ++ " " ++ w.right.value⟩

/-- What is reported of folding a list. -/
def Result.notices (r : Result) : List Notice := r.windows.map Window.notice

end LineBasic.Fold

namespace LineBasic.Node

/-- What folding the children of a node came to: the node after it, whether anything was folded
or why folding stopped, and what is reported of it. -/
structure Folded where
  node : Node
  changed : Except Fault Bool
  notices : List Notice

/-- Folds the children of a node. -/
def fold : Node → Folded
  | hole => ⟨hole, .error .emptyPlace, []⟩
  | mk kind value children =>
    let r := Fold.foldAll children
    let changed := match r.fault with
      | some fault => .error fault
      | none => .ok (!r.windows.isEmpty)
    ⟨mk kind value r.nodes, changed, r.notices⟩

end LineBasic.Node
