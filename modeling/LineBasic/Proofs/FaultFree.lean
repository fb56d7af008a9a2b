/-
# Where no fault is met

A fault is met at an empty place of a tree or at a node of a kind that no operation knows.  Trees
read from a text have neither.  They have grown out of leaves, so every node that evaluation comes
to is there, and every expression has its three parts (`faultless_evaluate`).  A statement of grown
trees can therefore fail, but not by a fault (`faultless_effect`), and this goes on to lines
(`fault?_enterLine`, `fault?_execute`) and to all that is made of lines (`fault?_enter`,
`fault?_load`, `fault?_run`).

Reading itself meets no fault either, since leaves are known (`faults_eq_nil`).

The store relies on one more thing: that a position is inside its array.  `Store.setElement?` makes
that condition visible, and it always holds (`setElement?_eq_some`).
-/
import LineBasic.Proofs.CellMemory
import LineBasic.Proofs.History
import LineBasic.Proofs.Sequences

namespace LineBasic

open Fold (AllGrown Grown)
open Source (Line)

/-! ## 1. Faults among failures -/

/-- The fault that an evaluation error reports, if it reports one. -/
def EvalError.fault? : EvalError → Option Fault
  | .fault cause => some cause
  | _ => none

/-- The fault that an error reports, perhaps with a line number on it. -/
def Error.fault? : Error → Option Fault
  | .evaluation cause => cause.fault?
  | .fault cause => some cause
  | .atLine _ cause => cause.fault?
  | .inSource _ cause => cause.fault?
  | _ => none

namespace Traced

variable {ε α β : Type} {fault? : ε → Option Fault}

/-- If the computation fails, then not by a fault. -/
def Faultless (fault? : ε → Option Fault) (x : Traced ε α) : Prop :=
  ∀ e, x.result = .error e → fault? e = none

theorem faultless_ok (a : α) : Faultless fault? (ok a) := by
  intro e h
  cases h

theorem faultless_fail {e : ε} (h : fault? e = none) :
    Faultless fault? (fail e : Traced ε α) := by
  intro e' h'
  cases h'
  exact h

theorem Faultless.bind {x : Traced ε α} {f : α → Traced ε β} (hx : x.Faultless fault?)
    (hf : ∀ a, (f a).Faultless fault?) : (x >>= f).Faultless fault? := by
  intro e h
  rw [result_bind] at h
  cases hresult : x.result with
  | error e' =>
    rw [hresult] at h
    cases h
    exact hx e hresult
  | ok a =>
    rw [hresult] at h
    exact hf a e h

end Traced

open Traced (faultless_ok faultless_fail)

/-! ## 2. Evaluation -/

theorem faultless_literalValue (literal : String) :
    (literalValue literal).Faultless EvalError.fault? := by
  unfold literalValue
  split
  · exact faultless_ok _
  · exact faultless_fail rfl

theorem faultless_applyOperator (operator : String) (a b : Float) :
    (applyOperator operator a b).Faultless EvalError.fault? := by
  unfold applyOperator
  split
  · exact fun _ h => nomatch h
  · exact faultless_fail rfl

/-- An expression meets no fault unless its parts do, or there is nothing between them. -/
theorem faultless_combine {left middle : Node} (known : middle.Known)
    {a b c : Traced EvalError Float} (ha : a.Faultless EvalError.fault?)
    (hb : b.Faultless EvalError.fault?) (hc : c.Faultless EvalError.fault?) :
    (combine left middle a b c).Faultless EvalError.fault? := by
  unfold combine
  split
  · exact hb
  · split
    · exact known.elim
    · exact ha.bind fun x => hc.bind fun y => faultless_applyOperator _ x y
    · exact faultless_fail rfl

/-- **Evaluating a grown tree meets no fault.** -/
theorem faultless_evaluate (s : Store) {n : Node} (h : Grown n) :
    (evaluate s n).Faultless EvalError.fault? := by
  induction h with
  | @leaf kind value h =>
    show (nodeValue s kind value [] []).Faultless _
    cases kind with
    | number => exact faultless_literalValue value
    | float => exact faultless_literalValue value
    | identifier => exact faultless_ok _
    | _ => exact faultless_fail rfl
  | @window level a b c fits _ hb _ iha ihb ihc =>
    show (combine a b (evaluate s a) (evaluate s b) (evaluate s c)).Faultless _
    exact faultless_combine hb.known iha ihb ihc

/-! ## 3. Statements -/

namespace Statement

variable (s : Store)

theorem faultless_valueOf {n : Node} (h : Grown n) : (valueOf s n).Faultless Error.fault? := by
  intro e he
  have eval := faultless_evaluate s h
  unfold valueOf Traced.mapError at he
  cases hresult : (evaluate s n).result with
  | ok x =>
    rw [hresult] at he
    cases he
  | error cause =>
    rw [hresult] at he
    cases he
    exact eval cause hresult

variable {nodes : List Node}

theorem faultless_assignElement (name : String) (index : Float) (h : AllGrown nodes) :
    (assignElement s name index nodes).Faultless Error.fault? := by
  unfold assignElement
  split
  · exact faultless_fail rfl
  · split
    · split
      · exact faultless_fail rfl
      · exact (faultless_valueOf s (h _ (by simp))).bind fun _ => faultless_ok _
    · exact faultless_fail rfl

theorem faultless_assignScalar (name : String) (h : AllGrown nodes) :
    (assignScalar s name nodes).Faultless Error.fault? := by
  unfold assignScalar
  split
  · exact faultless_fail rfl
  · exact (faultless_valueOf s (h _ (by simp))).bind fun _ => faultless_ok _

theorem faultless_assignTo (name : String) (h : AllGrown nodes) :
    (assignTo s name nodes).Faultless Error.fault? := by
  unfold assignTo
  split
  · exact faultless_fail rfl
  · exact (h .hole (by simp)).known.elim
  · rename_i next rest _
    have others : AllGrown rest := fun n hn => h n (by simp [hn])
    split
    · exact (faultless_valueOf s (h next (by simp))).bind fun index =>
        faultless_assignElement s name index others
    · split
      · exact faultless_assignScalar s name others
      · exact faultless_fail rfl

theorem faultless_assignAfterLet (h : AllGrown nodes) :
    (assignAfterLet s nodes).Faultless Error.fault? := by
  unfold assignAfterLet
  split
  · exact faultless_fail rfl
  · exact (h .hole (by simp)).known.elim
  · split
    · exact faultless_assignTo s _ fun n hn => h n (by simp [hn])
    · exact faultless_fail rfl

theorem faultless_assignment (h : AllGrown nodes) :
    (assignment s nodes).Faultless Error.fault? := by
  unfold assignment
  split
  · exact faultless_fail rfl
  · exact (h .hole (by simp)).known.elim
  · split
    · exact faultless_assignAfterLet s fun n hn => h n (by simp [hn])
    · exact faultless_fail rfl

theorem faultless_arguments (h : AllGrown nodes) :
    (arguments s nodes).Faultless Error.fault? := by
  induction nodes with
  | nil => exact faultless_ok _
  | cons n rest ih =>
    have later := ih fun m hm => h m (by simp [hm])
    cases n with
    | hole => exact (h .hole (by simp)).known.elim
    | mk kind value children =>
      unfold arguments
      dsimp only
      split_ifs
      · exact later.bind fun _ => faultless_ok _
      · exact later
      · exact (faultless_valueOf s (h _ (by simp))).bind fun _ =>
          later.bind fun _ => faultless_ok _

theorem faultless_printing (h : AllGrown nodes) : (printing s nodes).Faultless Error.fault? := by
  unfold printing
  split
  · exact faultless_fail rfl
  · exact (h .hole (by simp)).known.elim
  · split
    · exact (faultless_arguments s fun n hn => h n (by simp [hn])).bind fun _ => faultless_ok _
    · exact faultless_fail rfl

/-- **A statement of grown trees meets no fault.** -/
theorem faultless_effect (immediate : Bool) (h : AllGrown nodes) :
    (effect s immediate nodes).Faultless Error.fault? := by
  have completed : AllGrown (Source.letWord :: nodes) := by
    intro n hn
    rcases List.mem_cons.mp hn with rfl | hn
    · exact Source.grown_classify false "LET"
    · exact h n hn
  unfold effect
  split
  · exact faultless_fail rfl
  · exact (h .hole (by simp)).known.elim
  · dsimp only
    split_ifs
    · exact faultless_assignment s h
    · exact faultless_printing s h
    · exact faultless_assignment s completed
    · exact faultless_fail rfl

end Statement

/-! ## 4. Lines -/

namespace Source

theorem allGrown_leaves (ts : List String) : AllGrown (leaves ts) := by
  cases ts with
  | nil => exact fun n hn => nomatch hn
  | cons t ts =>
    intro n hn
    rcases List.mem_cons.mp hn with rfl | hn
    · exact grown_classify true t
    · exact allGrown_map_classify ts n hn

theorem allGrown_withLet {nodes : List Node} (h : AllGrown nodes) : AllGrown (withLet nodes) := by
  intro n hn
  unfold withLet at hn
  split at hn
  · rename_i number rest
    split_ifs at hn
    · rcases List.mem_cons.mp hn with rfl | hn
      · exact h _ (by simp)
      · rcases List.mem_cons.mp hn with rfl | hn
        · exact grown_classify false "LET"
        · exact h n (by simp [hn])
    · exact h n hn
  · exact h n hn

/-- **A line read from a text consists of grown trees.** -/
theorem allGrown_of_mem_lines {text : String} {l : Line} (h : l ∈ lines text) :
    AllGrown l.nodes := by
  rw [lines_eq] at h
  obtain ⟨ts, -, rfl⟩ := List.mem_map.mp h
  rw [nodes_readLine]
  exact allGrown_withLet (Fold.allGrown_foldAll (allGrown_leaves ts))

/-- The faults met while a text is read. -/
def faults (text : String) : List Fault :=
  (segments (Token.tokens text)).filterMap fun ts => (Fold.foldAll (leaves ts)).fault

/-- **Reading meets no fault.** -/
theorem faults_eq_nil (text : String) : faults text = [] := by
  refine List.filterMap_eq_nil_iff.mpr fun ts _ => ?_
  exact Fold.fault_foldAll (allGrown_leaves ts).known

end Source

namespace Interpreter

variable (out : Stream) (i : Interpreter)

theorem fault?_perform (effect : Effect) :
    ∀ e ∈ (i.perform out effect).answer, e.fault? = none := by
  intro e he
  unfold perform at he
  split at he
  · cases he
  · split at he
    · cases he
    · cases he
      rfl
  · split at he
    · cases he
      rfl
    · cases he

theorem fault?_executeStatement (immediate : Bool) {statement : List Node}
    (h : AllGrown statement) :
    ∀ e ∈ (i.executeStatement out immediate statement).answer, e.fault? = none := by
  intro e he
  have faultless := Statement.faultless_effect i.store immediate h
  unfold executeStatement carryOut at he
  split at he
  · rename_i cause hresult
    cases he
    exact faultless _ hresult
  · exact fault?_perform out i _ e he

variable {l : Line}

theorem fault?_of_parts {e : Error} (h : AllGrown l.nodes) (he : parts l = .error e) :
    e.fault? = none := by
  unfold parts at he
  split at he
  · cases he
  · rename_i hnodes
    exact (h .hole (by simp [hnodes])).known.elim
  · split_ifs at he
    split at he
    · cases he
    · cases he
      rfl

theorem allGrown_of_parts {p : Parts} (h : AllGrown l.nodes) (hp : parts l = .ok p) :
    AllGrown p.statement := by
  unfold parts at hp
  split at hp
  · cases hp
    exact fun n hn => nomatch hn
  · cases hp
  · rename_i hnodes
    rw [hnodes] at h
    split_ifs at hp
    · split at hp
      · cases hp
        exact fun n hn => h n (by simp [hn])
      · cases hp
    · cases hp
      exact h

theorem fault?_enterLine (h : AllGrown l.nodes) :
    ∀ e ∈ (i.enterLine out l).answer, e.fault? = none := by
  intro e he
  unfold enterLine at he
  split at he
  · rename_i hparts
    cases he
    exact fault?_of_parts h hparts
  · cases he
  · rename_i hparts
    exact fault?_executeStatement out i true (allGrown_of_parts h hparts) e he
  · cases he
  · cases he

theorem fault?_execute (h : AllGrown l.nodes) :
    ∀ e ∈ (i.execute out l).answer, e.fault? = none := by
  intro e he
  unfold execute at he
  split at he
  · rename_i hparts
    cases he
    exact fault?_of_parts h hparts
  · rename_i hparts
    exact fault?_executeStatement out i _ (allGrown_of_parts h hparts) e he

/-! ## 5. Texts, sources and programs -/

theorem fault?_enter (text : String) : ∀ e ∈ (i.enter out text).answer, e.fault? = none := by
  rw [enter_eq, Turn.answer_after, enterLines_eq_untilFailure]
  refine answer_untilFailure fun j l hl e he => ?_
  exact fault?_enterLine out j (Source.allGrown_of_mem_lines hl) e he

theorem fault?_load (source : String) : ∀ e ∈ (i.load out source).answer, e.fault? = none := by
  intro e he
  rw [load_eq, Turn.answer_after, (Turn.quiet_eq_iff.mp (quiet_loadLines i out 1 _)).2.2] at he
  obtain ⟨a, ha, hwarning⟩ := List.mem_filterMap.mp he
  obtain ⟨cause, hcause, rfl⟩ := Option.map_eq_some_iff.mp hwarning
  have answered : ∀ answer ∈ (i.each (enterLine out) (Source.lines source)).answer,
      ∀ e ∈ answer, e.fault? = none :=
    answer_each (enterLine out) i fun j l hl e he =>
      fault?_enterLine out j (Source.allGrown_of_mem_lines hl) e he
  exact answered a.1 (List.fst_mem_of_mem_zipIdx ha) cause hcause

theorem fault?_run (stored : FromSource i.program) :
    ∀ e ∈ (i.run out).answer, e.fault? = none := by
  intro e he
  unfold run at he
  split at he
  · cases he
    rfl
  · rw [(Turn.quiet_eq_iff.mp (quiet_runLines i out _)).2.2] at he
    refine answer_untilFailure (P := fun e => e.fault? = none)
      (fun j entry hentry cause hcause => ?_) e he
    obtain ⟨⟨text, hl⟩, -⟩ := stored entry hentry
    refine fault?_executeStatement out j false (fun n hn => ?_) cause hcause
    exact Source.allGrown_of_mem_lines hl n (List.mem_of_mem_drop hn)

end Interpreter

/-! ## 6. Positions in arrays -/

namespace Store

/-- Sets an element only where that is possible: a new array has no negative length, and the
position is inside the array. -/
def setElement? (s : Store) (name : String) (index value : Float) :
    Option (Store × Except AccessError Unit) :=
  match s.dimension name s.arraySize with
  | .error _ => none
  | .ok (s, a, _) =>
    match checkIndex name index a.size with
    | .error e => some (s, .error e)
    | .ok k =>
      if h : k < a.size then
        some ({ s with arrays := s.arrays.insert name (a.set k value h) }, .ok ())
      else none

/-- **An element can always be set** where its index was accepted. -/
theorem setElement?_eq_some (s : Store) (name : String) (index value : Float) :
    s.setElement? name index value = some (s.setElement name index value) := by
  have possible : s.dimension name s.arraySize = .ok (s.dim name s.arraySize) := by
    simp [dimension]
  unfold setElement? setElement
  rw [possible]
  dsimp only
  cases hk : checkIndex name index (s.dim name s.arraySize).2.1.size with
  | error e => rfl
  | ok k =>
    have inside := (checkIndex_eq_ok_iff.mp hk).2
    simp [inside, Array.setIfInBounds]

end Store

end LineBasic
