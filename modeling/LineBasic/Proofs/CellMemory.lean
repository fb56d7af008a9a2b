/-
# A store is a memory of cells

What a store holds is said here without storing anything.  A history is the list of accesses to a
store, and three questions to it settle every cell:

* which value was given to the scalar last (`lastSet?`);
* which access named the array first, and what size that gave it (`firstSize?`);
* which value was written last to the element, under an index that stands for its position
  (`lastWritten?`).

A store made with any options and accessed in any way **holds in each scalar the last value set, and
in each element of each array that was named the last value written**, zero where there was none
(`holds_after`).  One access keeps this true (`Holds.apply`): it sets one scalar, or names one array
and writes to one of its elements at most.

An index stands for a position if it is exactly that whole number (`checkIndex_eq_ok_iff`).
-/
import LineBasic.Proofs.MapEntries
import LineBasic.Store
import Mathlib.Data.List.Induction

namespace LineBasic

/-! ## 1. Indices that are accepted -/

theorem Number.one_pos : 0 < Number.one := by
  unfold Number.one
  generalize 1074 = n
  exact Nat.two_pow_pos n

/-- The number is the whole number `i`.  Zero may have a sign. -/
def Number.Binary64.isWhole (i : Nat) : Number.Binary64 → Bool
  | .finite negative steps => steps = i * Number.one && (!negative || i = 0)
  | _ => false

/-- The index stands for the position `i`. -/
def standsFor (index : Float) (i : Nat) : Bool := (Number.Binary64.ofFloat index).isWhole i

theorem eq_mul_iff {unit steps i : Nat} (pos : 0 < unit) :
    steps = i * unit ↔ steps % unit = 0 ∧ steps / unit = i := by
  constructor
  · rintro rfl
    exact ⟨Nat.mul_mod_left i unit, Nat.mul_div_cancel i pos⟩
  · rintro ⟨whole, rfl⟩
    exact (Nat.div_mul_cancel (Nat.dvd_of_mod_eq_zero whole)).symm

theorem position_eq_ok_iff {size i : Nat} {x : Number.Binary64} :
    position size x = .ok i ↔ x.isWhole i ∧ i < size := by
  cases x with
  | nan => simp [position, Number.Binary64.isWhole]
  | infinite negative => simp [position, Number.Binary64.isWhole]
  | finite negative steps =>
    have pos := Number.one_pos
    simp only [position, Number.Binary64.isWhole]
    -- the unit is too large a number to compute with
    generalize Number.one = unit at pos
    have whole := @eq_mul_iff unit steps i pos
    have zero : steps = i * unit → (steps = 0 ↔ i = 0) := by
      rintro rfl
      simp only [Nat.mul_eq_zero, pos.ne', or_false]
    split_ifs <;> grind

/-- **An index is accepted iff it is a whole number inside the array.** -/
theorem checkIndex_eq_ok_iff {name : String} {index : Float} {size i : Nat} :
    checkIndex name index size = .ok i ↔ standsFor index i ∧ i < size := by
  rw [standsFor, ← position_eq_ok_iff]
  unfold checkIndex
  split <;> simp_all

namespace Store

/-! ## 2. Accesses -/

/-- A store made with options.  Each asks for a size of arrays that come into being by access; a
size below one is ignored. -/
def new (sizes : List Int) : Store :=
  sizes.foldl (fun s size => if 0 < size then { s with arraySize := size.toNat } else s)
    ⟨.empty, .empty, defaultArraySize⟩

/-- Of several options the last counts that is not ignored. -/
theorem new_eq_empty (sizes : List Int) :
    new sizes = empty ((sizes.reverse.find? (0 < ·)).getD 0) := by
  induction sizes using List.reverseRecOn with
  | nil => rfl
  | append_singleton sizes size ih =>
    rw [new, List.foldl_concat, ← new, ih, List.reverse_concat]
    by_cases pos : 0 < size <;> simp [empty, pos]

/-- One access to a store. -/
inductive Access where
  | setScalar (name : String) (value : Float)
  | dim (name : String) (size : Nat)
  | element (name : String) (index : Float)
  | setElement (name : String) (index value : Float)
  | scalar (name : String)
  | array (name : String)
  | snapshot

/-- The store after an access. -/
def Access.apply (s : Store) : Access → Store
  | .setScalar name value => s.setScalar name value
  | .dim name size => (s.dim name size).1
  | .element name index => (s.element name index).1
  | .setElement name index value => (s.setElement name index value).1
  | .scalar _ | .array _ | .snapshot => s

/-- The store after a history of accesses. -/
def after (s : Store) (history : List Access) : Store := history.foldl Access.apply s

/-- The value that an access gives to a scalar. -/
def Access.set? (x : String) : Access → Option Float
  | .setScalar name value => if name = x then some value else none
  | _ => none

/-- The size that an access gives to an array, if no other has named the array before. -/
def Access.size? (arraySize : Nat) (x : String) : Access → Option Nat
  | .dim name size => if name = x then some size else none
  | .element name _ | .setElement name _ _ => if name = x then some arraySize else none
  | _ => none

/-- The value that an access writes to an element. -/
def Access.written? (x : String) (i : Nat) : Access → Option Float
  | .setElement name index value => if name = x && standsFor index i then some value else none
  | _ => none

/-! ## 3. What a history says -/

/-- The value given to a scalar last. -/
def lastSet? (history : List Access) (x : String) : Option Float :=
  history.reverse.findSome? (Access.set? x)

/-- The size of an array: what the first access gave it that named it. -/
def firstSize? (arraySize : Nat) (history : List Access) (x : String) : Option Nat :=
  history.findSome? (Access.size? arraySize x)

/-- The value written to an element last. -/
def lastWritten? (history : List Access) (x : String) (i : Nat) : Option Float :=
  history.reverse.findSome? (Access.written? x i)

/-- The elements of an array, if it has been named: what was written last, or zero. -/
def contents? (arraySize : Nat) (history : List Access) (x : String) : Option (Array Float) :=
  (firstSize? arraySize history x).map fun size =>
    Array.ofFn fun i : Fin size => (lastWritten? history x i).getD 0.0

variable {arraySize : Nat} {history : List Access} {a : Access} {s : Store} {x : String}

theorem findSome?_reverse_concat {α β : Type} (f : α → Option β) (l : List α) (a : α) :
    (l ++ [a]).reverse.findSome? f = (f a).or (l.reverse.findSome? f) := by
  rw [List.reverse_append, List.findSome?_append]
  simp

theorem lastSet?_concat : lastSet? (history ++ [a]) x = (a.set? x).or (lastSet? history x) :=
  findSome?_reverse_concat _ _ _

theorem lastWritten?_concat (i : Nat) :
    lastWritten? (history ++ [a]) x i = (a.written? x i).or (lastWritten? history x i) :=
  findSome?_reverse_concat _ _ _

theorem firstSize?_concat :
    firstSize? arraySize (history ++ [a]) x
      = (firstSize? arraySize history x).or (a.size? arraySize x) := by
  simp [firstSize?]

/-- What is written to an array names it. -/
theorem written?_eq_none (h : a.size? arraySize x = none) (i : Nat) : a.written? x i = none := by
  cases a <;> simp_all [Access.size?, Access.written?]

theorem lastWritten?_eq_none (h : firstSize? arraySize history x = none) (i : Nat) :
    lastWritten? history x i = none := by
  refine List.findSome?_eq_none_iff.mpr fun a ha => ?_
  exact written?_eq_none (List.findSome?_eq_none_iff.mp h a (List.mem_reverse.mp ha)) i

/-- The elements after an access. -/
def Access.writeTo (x : String) (a : Access) (cells : Array Float) : Array Float :=
  Array.ofFn fun i : Fin cells.size => (a.written? x i).getD cells[i]

theorem writeTo_of_forall {cells : Array Float} (h : ∀ i < cells.size, a.written? x i = none) :
    a.writeTo x cells = cells := by
  refine Array.ext (by simp [Access.writeTo]) fun i _ hi => ?_
  simp [Access.writeTo, h i hi]

/-- **What a history says of an array after one more access.** -/
theorem contents?_concat :
    contents? arraySize (history ++ [a]) x
      = match a.size? arraySize x with
        | none => contents? arraySize history x
        | some size =>
          some (a.writeTo x ((contents? arraySize history x).getD (Array.replicate size 0.0))) := by
  unfold contents?
  rw [firstSize?_concat]
  simp only [lastWritten?_concat]
  cases named : a.size? arraySize x with
  | none => simp [written?_eq_none named]
  | some size =>
    cases before : firstSize? arraySize history x with
    | none =>
      simp only [lastWritten?_eq_none before]
      refine congrArg some (Array.ext (by simp [Access.writeTo]) fun i _ _ => ?_)
      simp [Access.writeTo]
    | some n =>
      refine congrArg some (Array.ext (by simp [Access.writeTo]) fun i _ _ => ?_)
      simp only [Access.writeTo, Array.getElem_ofFn, Option.map_some, Option.getD_some]
      cases a.written? x i <;> simp

/-! ## 4. What a store does -/

/-- The array of a name if there is one, else zeros. -/
def cells (s : Store) (name : String) (size : Nat) : Array Float :=
  (s.array? name).getD (Array.replicate size 0.0)

theorem find?_insert_string {α : Type} (m : SortedMap String α) (name y : String) (v : α) :
    (m.insert name v).find? y = if name = y then some v else m.find? y := by
  rw [SortedMap.find?_insert]
  simp only [Std.compare_eq_iff_eq, @eq_comm _ y]

theorem array?_dim (s : Store) (name y : String) (size : Nat) :
    (s.dim name size).1.array? y
      = if name = y then some (s.cells name size) else s.array? y := by
  unfold dim cells
  split
  · rename_i cells found
    split_ifs with same
    · simp [← same, found]
    · rfl
  · rename_i absent
    simp only [array?, find?_insert_string] at absent ⊢
    simp [absent]

theorem dim_eq (s : Store) (name : String) (size : Nat) :
    s.dim name size = ((s.dim name size).1, s.cells name size, (s.array? name).isNone) := by
  unfold dim cells
  split <;> simp_all

theorem scalars_dim (s : Store) (name : String) (size : Nat) :
    (s.dim name size).1.scalars = s.scalars := by
  unfold dim
  split <;> rfl

theorem setElement_of_error {name : String} {index value : Float} {e : AccessError}
    (h : checkIndex name index (s.cells name s.arraySize).size = .error e) :
    s.setElement name index value = ((s.dim name s.arraySize).1, .error e) := by
  unfold setElement
  rw [dim_eq]
  simp only [h]

theorem setElement_of_ok {name : String} {index value : Float} {i : Nat}
    (h : checkIndex name index (s.cells name s.arraySize).size = .ok i) :
    s.setElement name index value
      = ({ (s.dim name s.arraySize).1 with
            arrays := (s.dim name s.arraySize).1.arrays.insert name
              ((s.cells name s.arraySize).setIfInBounds i value) }, .ok ()) := by
  unfold setElement
  rw [dim_eq]
  simp only [h]

theorem element_eq (s : Store) (name : String) (index : Float) :
    s.element name index
      = ((s.dim name s.arraySize).1,
        (checkIndex name index (s.cells name s.arraySize).size).map
          fun i => (s.cells name s.arraySize)[i]?.getD 0.0) := by
  unfold element
  rw [dim_eq]

/-- The access is one to a scalar. -/
def Access.isScalarAccess : Access → Bool
  | .setScalar _ _ | .scalar _ => true
  | _ => false

/-- The array that an access asks for. -/
def Access.arrayName? : Access → Option String
  | .dim name _ | .element name _ | .setElement name _ _ | .array name => some name
  | _ => none

/-- Why an access fails, if it does. -/
def Access.failure? (s : Store) : Access → Option AccessError
  | .element name index => match (s.element name index).2 with
    | .error e => some e
    | .ok _ => none
  | .setElement name index value => match (s.setElement name index value).2 with
    | .error e => some e
    | .ok _ => none
  | _ => none

/-- **An access to an array leaves the scalars alone.** -/
theorem scalars_apply (h : a.arrayName?.isSome) : (a.apply s).scalars = s.scalars := by
  cases a with
  | dim name size => exact scalars_dim s name size
  | element name index =>
    rw [Access.apply, element_eq, scalars_dim]
  | setElement name index value =>
    rw [Access.apply]
    cases h : checkIndex name index (s.cells name s.arraySize).size with
    | error e => rw [setElement_of_error h, scalars_dim]
    | ok i => rw [setElement_of_ok h, scalars_dim]
  | array name => rfl
  | _ => cases h

/-- What is found among the scalars after an access. -/
theorem find?_scalars_apply :
    (a.apply s).scalars.find? x = (a.set? x).or (s.scalars.find? x) := by
  by_cases h : a.arrayName?.isSome
  · rw [scalars_apply h]
    cases a <;> first | rfl | cases h
  · cases a with
    | setScalar name value =>
      rw [Access.apply, setScalar, find?_insert_string, Access.set?]
      split_ifs <;> rfl
    | scalar name => rfl
    | snapshot => rfl
    | _ => exact absurd rfl h

theorem size_writeTo (a : Access) (x : String) (cells : Array Float) :
    (a.writeTo x cells).size = cells.size := by simp [Access.writeTo]

theorem writeTo_setElement_of_error {name : String} {index value : Float} {cells : Array Float}
    {e : AccessError} (h : checkIndex name index cells.size = .error e) :
    (Access.setElement name index value).writeTo name cells = cells := by
  refine writeTo_of_forall fun i hi => ?_
  have refused : ¬ standsFor index i := fun accepted => by
    rw [checkIndex_eq_ok_iff.mpr ⟨accepted, hi⟩] at h
    cases h
  simp [Access.written?, refused]

theorem writeTo_setElement_of_ok {name : String} {index value : Float} {cells : Array Float}
    {i : Nat} (h : checkIndex name index cells.size = .ok i) :
    (Access.setElement name index value).writeTo name cells = cells.setIfInBounds i value := by
  refine Array.ext (by simp [Access.writeTo]) fun j hj _ => ?_
  rw [size_writeTo] at hj
  have accepted : standsFor index j ↔ i = j := by
    have iff := @checkIndex_eq_ok_iff name index cells.size j
    rw [h, Except.ok.injEq] at iff
    simp [iff, hj]
  by_cases same : i = j
  · simp [Access.writeTo, Access.written?, accepted.mpr same, same]
  · rw [Array.getElem_setIfInBounds_ne hj same]
    simp [Access.writeTo, Access.written?, mt accepted.mp same]

/-- **What is found among the arrays after an access**: the array that it names, made if there was
none, with the element written, and every other array as before. -/
theorem array?_apply :
    (a.apply s).array? x
      = match a.size? s.arraySize x with
        | none => s.array? x
        | some size => some (a.writeTo x (s.cells x size)) := by
  cases a with
  | dim name size =>
    rw [Access.apply, array?_dim, Access.size?]
    split_ifs with same
    · subst same
      exact congrArg some (writeTo_of_forall fun _ _ => rfl).symm
    · rfl
  | element name index =>
    rw [Access.apply, element_eq, array?_dim, Access.size?]
    split_ifs with same
    · subst same
      exact congrArg some (writeTo_of_forall fun _ _ => rfl).symm
    · rfl
  | setElement name index value =>
    rw [Access.apply, Access.size?]
    cases h : checkIndex name index (s.cells name s.arraySize).size with
    | error e =>
      rw [setElement_of_error h, array?_dim]
      split_ifs with same
      · subst same
        exact congrArg some (writeTo_setElement_of_error h).symm
      · rfl
    | ok i =>
      rw [setElement_of_ok h]
      rw [array?, find?_insert_string]
      split_ifs with same
      · subst same
        exact congrArg some (writeTo_setElement_of_ok h).symm
      · exact (array?_dim s name x s.arraySize).trans (if_neg same)
  | _ => rfl

theorem arraySize_dim (s : Store) (name : String) (size : Nat) :
    (s.dim name size).1.arraySize = s.arraySize := by
  unfold dim
  split <;> rfl

theorem arraySize_setElement (s : Store) (name : String) (index value : Float) :
    (s.setElement name index value).1.arraySize = s.arraySize := by
  cases h : checkIndex name index (s.cells name s.arraySize).size with
  | error e => rw [setElement_of_error h, arraySize_dim]
  | ok i => rw [setElement_of_ok h, arraySize_dim]

theorem arraySize_apply : (a.apply s).arraySize = s.arraySize := by
  cases a with
  | dim name size => exact arraySize_dim s name size
  | element name index =>
    rw [Access.apply, element_eq, arraySize_dim]
  | setElement name index value => exact arraySize_setElement s name index value
  | _ => rfl

/-- **An access that fails makes the array, if it has to, and changes nothing else.** -/
theorem array?_apply_of_failure {e : AccessError} (h : a.failure? s = some e) :
    ∃ name, a.arrayName? = some name
      ∧ ∀ y, (a.apply s).array? y
        = if name = y then some (s.cells name s.arraySize) else s.array? y := by
  cases a with
  | element name index =>
    refine ⟨name, rfl, fun y => ?_⟩
    rw [Access.apply, element_eq, array?_dim]
  | setElement name index value =>
    refine ⟨name, rfl, fun y => ?_⟩
    rw [Access.apply]
    cases hcheck : checkIndex name index (s.cells name s.arraySize).size with
    | error e => rw [setElement_of_error hcheck, array?_dim]
    | ok i => simp [Access.failure?, setElement_of_ok hcheck] at h
  | _ => cases h

/-! ## 5. Whole histories -/

/-- The store holds what a history says. -/
structure Holds (arraySize : Nat) (history : List Access) (s : Store) : Prop where
  newSize : s.arraySize = arraySize
  scalars : ∀ x, s.scalars.find? x = lastSet? history x
  arrays : ∀ x, s.array? x = contents? arraySize history x

/-- **One access.** -/
theorem Holds.apply (h : Holds arraySize history s) (a : Access) :
    Holds arraySize (history ++ [a]) (a.apply s) where
  newSize := arraySize_apply.trans h.newSize
  scalars x := by rw [find?_scalars_apply, h.scalars, lastSet?_concat]
  arrays x := by simp only [array?_apply, h.newSize, contents?_concat, cells, h.arrays]

/-- **A whole history.** -/
theorem holds_after (sizes : List Int) (history : List Access) :
    Holds (new sizes).arraySize history ((new sizes).after history) := by
  induction history using List.reverseRecOn with
  | nil =>
    rw [new_eq_empty]
    exact ⟨rfl, fun _ => rfl, fun _ => rfl⟩
  | append_singleton history a ih =>
    rw [after, List.foldl_concat]
    exact ih.apply a

namespace Holds

variable (h : Holds arraySize history s)

include h

/-- The size of an array that is asked for, which is made if there was none. -/
theorem size_cells (x : String) :
    (s.cells x s.arraySize).size = (firstSize? arraySize history x).getD arraySize := by
  rw [cells, h.arrays, h.newSize, contents?]
  cases firstSize? arraySize history x <;> simp

theorem getElem?_cells {i : Nat}
    (hi : i < (firstSize? arraySize history x).getD arraySize) :
    (s.cells x s.arraySize)[i]? = some ((lastWritten? history x i).getD 0.0) := by
  rw [cells, h.arrays, h.newSize, contents?]
  cases named : firstSize? arraySize history x with
  | none =>
    rw [named] at hi
    simp_all [lastWritten?_eq_none named]
  | some size =>
    rw [named] at hi
    simp_all

theorem dimension_eq (x : String) (size : Nat) :
    s.dimension x size
      = .ok ((Access.dim x size).apply s,
          (contents? arraySize history x).getD (Array.replicate size 0.0),
          (contents? arraySize history x).isNone) := by
  have possible : ¬ ((size : Int) < 0) := by omega
  rw [dimension, ← h.arrays, Int.toNat_natCast]
  simp only [possible, decide_false, Bool.false_and, Bool.false_eq_true, if_false]
  rw [dim_eq]
  rfl

/-- An index is accepted iff it stands for a position in the array. -/
theorem checkIndex_cells (x : String) (index : Float) :
    (∃ i, checkIndex x index (s.cells x s.arraySize).size = .ok i)
      ↔ ∃ i < (firstSize? arraySize history x).getD arraySize, standsFor index i := by
  rw [h.size_cells]
  constructor
  · rintro ⟨i, hi⟩
    exact ⟨i, (checkIndex_eq_ok_iff.mp hi).2, (checkIndex_eq_ok_iff.mp hi).1⟩
  · rintro ⟨i, hi, accepted⟩
    exact ⟨i, checkIndex_eq_ok_iff.mpr ⟨accepted, hi⟩⟩

theorem element_of_standsFor {i : Nat} {index : Float}
    (hi : i < (firstSize? arraySize history x).getD arraySize) (accepted : standsFor index i) :
    (s.element x index).2 = .ok ((lastWritten? history x i).getD 0.0) := by
  rw [element_eq, h.size_cells, checkIndex_eq_ok_iff.mpr ⟨accepted, hi⟩]
  simp [Except.map, h.getElem?_cells hi]

theorem element_of_forall {index : Float}
    (refused : ∀ i < (firstSize? arraySize history x).getD arraySize, ¬ standsFor index i) :
    ∃ e, (s.element x index).2 = .error e := by
  rw [element_eq]
  cases hcheck : checkIndex x index (s.cells x s.arraySize).size with
  | error e => exact ⟨e, rfl⟩
  | ok i =>
    obtain ⟨j, hj, accepted⟩ := (h.checkIndex_cells x index).mp ⟨i, hcheck⟩
    exact absurd accepted (refused j hj)

theorem setElement_eq_ok_iff (x : String) (index value : Float) :
    (s.setElement x index value).2 = .ok ()
      ↔ ∃ i < (firstSize? arraySize history x).getD arraySize, standsFor index i := by
  rw [← h.checkIndex_cells]
  cases hcheck : checkIndex x index (s.cells x s.arraySize).size with
  | error e => simp [setElement_of_error hcheck]
  | ok i => simp [setElement_of_ok hcheck]

end Holds

/-- The store answers as a memory of cells would that has gone through the history. -/
structure IsMemoryOf (arraySize : Nat) (history : List Access) (s : Store) : Prop where
  /-- A scalar has the value that it was given last. -/
  scalar : ∀ x, s.scalar x = (lastSet? history x).getD 0.0
  /-- An array exists if it was named; its size is what the first access gave it, and an element has
  the value that was last written to it. -/
  array : ∀ x, s.array? x = contents? arraySize history x
  /-- Copies hold the same. -/
  snapshot : (∀ x v, (x, v) ∈ s.snapshot.scalars ↔ lastSet? history x = some v)
    ∧ ∀ x cells, (x, cells) ∈ s.snapshot.arrays ↔ contents? arraySize history x = some cells
  /-- An array that exists is returned as it is. -/
  dimension : ∀ (x : String) (size : Nat), s.dimension x size
    = .ok ((Access.dim x size).apply s,
        (contents? arraySize history x).getD (Array.replicate size 0.0),
        (contents? arraySize history x).isNone)
  /-- An element is returned iff the index stands for its position. -/
  element : ∀ x index, let size := (firstSize? arraySize history x).getD arraySize
    (∀ i < size, standsFor index i →
        (s.element x index).2 = .ok ((lastWritten? history x i).getD 0.0))
      ∧ ((∀ i < size, ¬ standsFor index i) → ∃ e, (s.element x index).2 = .error e)
  /-- An element is set iff the index stands for its position. -/
  setElement : ∀ x index value, let size := (firstSize? arraySize history x).getD arraySize
    (s.setElement x index value).2 = .ok () ↔ ∃ i < size, standsFor index i
  /-- Accesses to scalars leave all arrays alone. -/
  scalarAccess : ∀ a : Access, a.isScalarAccess → (a.apply s).arrays = s.arrays
  /-- Accesses to arrays leave all scalars alone. -/
  arrayAccess : ∀ a : Access, a.arrayName?.isSome → (a.apply s).scalars = s.scalars
  /-- An access that fails makes the array, if it has to, and changes nothing else. -/
  failure : ∀ (a : Access) e, a.failure? s = some e →
    ∃ x, a.arrayName? = some x ∧ (a.apply s).scalars = s.scalars
      ∧ ∀ y, (a.apply s).array? y
        = if x = y then some ((s.array? x).getD (Array.replicate arraySize 0.0)) else s.array? y

/-- **A store is a memory of cells.**  Made with any options and accessed in any way, it answers by
the last value that each scalar and each element of an array was given. -/
theorem memory_of_history (sizes : List Int) (history : List Access) :
    IsMemoryOf (new sizes).arraySize history ((new sizes).after history) := by
  have h := holds_after sizes history
  generalize (new sizes).after history = s at h
  generalize (new sizes).arraySize = arraySize at h
  refine ⟨?_, h.arrays, ⟨?_, ?_⟩, h.dimension_eq, ?_, h.setElement_eq_ok_iff, ?_,
    fun a ha => scalars_apply ha, ?_⟩
  · intro x
    rw [scalar, h.scalars]
  · intro x v
    exact SortedMap.mem_entries_iff.trans (Eq.congr_left (h.scalars x))
  · intro x cells
    exact SortedMap.mem_entries_iff.trans (Eq.congr_left (h.arrays x))
  · intro x index size
    exact ⟨fun i hi accepted => h.element_of_standsFor hi accepted,
      fun refused => h.element_of_forall refused⟩
  · intro a ha
    cases a <;> first | rfl | cases ha
  · intro a e ha
    obtain ⟨name, hname, harrays⟩ := array?_apply_of_failure ha
    refine ⟨name, hname, scalars_apply (by simp [hname]), fun y => ?_⟩
    rw [harrays, cells, h.newSize]

end Store

end LineBasic
