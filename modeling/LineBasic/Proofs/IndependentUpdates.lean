/-
# Updates that do not depend on each other

An update sets a scalar, dimensions an array, or writes an element, and it concerns one variable
(`Update.target`).  Two updates are independent if they concern different variables, or write to one
array under indices that are different numbers (`Update.Independent`).

What an update gives back depends on nothing but its own variable (`answer_apply`), and it leaves
every other variable alone (`array?_apply_of_ne`).  So **independent updates may be made in either
order** (`apply_comm`): each gives the same answer, and the stores are the same.

What is shown of a store is fixed by what it holds (`listing`): there is a row for every scalar and
then for every element, by name.  The names are ascending by bytes and those of the variables that
exist, and sorting them gives this order **whatever order they come in** (`listed_keys`).
-/
import LineBasic.Display.Item
import LineBasic.Proofs.ByteOrder
import LineBasic.Proofs.IndexValidation

namespace LineBasic.Store

/-! ## 1. Updates -/

/-- A variable of a program: a scalar and an array may have the same name. -/
inductive Variable where
  | scalar (name : String)
  | array (name : String)
  deriving DecidableEq

/-- A change to a store. -/
inductive Update where
  | setScalar (name : String) (value : Float)
  | dim (name : String) (size : Nat)
  | setElement (name : String) (index value : Float)

/-- What an update gives back. -/
inductive Answer where
  | done
  /-- The array, and whether it was made. -/
  | array (result : Except Fault (Array Float × Bool))
  | written (result : Except AccessError Unit)

theorem eq_of_parts {s t : Store} (scalars : s.scalars = t.scalars) (arrays : s.arrays = t.arrays)
    (sizes : s.arraySize = t.arraySize) : s = t := by
  cases s
  cases t
  cases scalars
  cases arrays
  cases sizes
  rfl

namespace Update

/-- The variable that an update concerns. -/
def target : Update → Variable
  | .setScalar name _ => .scalar name
  | .dim name _ => .array name
  | .setElement name _ _ => .array name

/-- Makes an update: the store after it, and what it gives back. -/
def perform (s : Store) : Update → Store × Answer
  | .setScalar name value => (s.setScalar name value, .done)
  | .dim name size =>
    match s.dimension name size with
    | .error fault => (s, .array (.error fault))
    | .ok (after, a, made) => (after, .array (.ok (a, made)))
  | .setElement name index value =>
    let (after, result) := s.setElement name index value
    (after, .written result)

/-- The store after an update. -/
def apply (u : Update) (s : Store) : Store := (perform s u).1

/-- What an update of a store gives back. -/
def answer (u : Update) (s : Store) : Answer := (perform s u).2

/-- The updates concern different variables, or write to one array under different indices. -/
def Independent (u v : Update) : Prop :=
  u.target ≠ v.target
    ∨ ∃ name i j x y, u = .setElement name i x ∧ v = .setElement name j y ∧ (i == j) = false

variable {u v : Update} {s t : Store} {x : String}

/-! ## 2. What an update changes -/

/-- The update as an access. -/
def access : Update → Access
  | .setScalar name value => .setScalar name value
  | .dim name size => .dim name size
  | .setElement name index value => .setElement name index value

theorem dimension_natCast (s : Store) (name : String) (size : Nat) :
    s.dimension name size = .ok (s.dim name size) := by
  have natural : decide ((size : Int) < 0) = false :=
    decide_eq_false (Int.not_lt.mpr (Int.natCast_nonneg size))
  rw [dimension, natural, Bool.false_and, if_neg Bool.false_ne_true, Int.toNat_natCast]

theorem apply_eq (u : Update) (s : Store) : u.apply s = u.access.apply s := by
  cases u with
  | setScalar name value => rfl
  | dim name size => rw [apply, perform, dimension_natCast]; rfl
  | setElement name index value => rfl

theorem target_of_set? {value : Float} (h : u.access.set? x = some value) :
    u.target = .scalar x := by
  cases u <;> simp_all [access, Access.set?, target]

theorem target_of_size? {n size : Nat} (h : u.access.size? n x = some size) :
    u.target = .array x := by
  cases u <;> simp_all [access, Access.size?, target]

theorem arraySize_apply (u : Update) (s : Store) : (u.apply s).arraySize = s.arraySize := by
  rw [apply_eq, Store.arraySize_apply]

/-- An update leaves the arrays alone that it does not concern. -/
theorem array?_apply_of_ne (h : u.target ≠ .array x) : (u.apply s).array? x = s.array? x := by
  have none : u.access.size? s.arraySize x = none := by
    rw [Option.eq_none_iff_forall_ne_some]
    intro size named
    exact h (target_of_size? named)
  rw [apply_eq, array?_apply, none]

/-- What becomes of an array depends on that array only. -/
theorem array?_apply_congr (arrays : s.array? x = t.array? x) (sizes : s.arraySize = t.arraySize) :
    (u.apply s).array? x = (u.apply t).array? x := by
  rw [apply_eq, apply_eq, array?_apply, array?_apply, sizes]
  simp only [cells, arrays]

theorem array?_apply_setElement (s : Store) (name : String) (index value : Float) :
    ((setElement name index value).apply s).array? name
      = some ((Access.setElement name index value).writeTo name (s.cells name s.arraySize)) := by
  rw [apply_eq, array?_apply]
  simp [access, Access.size?]

theorem cells_apply_setElement (s : Store) (name : String) (index value : Float) :
    ((setElement name index value).apply s).cells name s.arraySize
      = (Access.setElement name index value).writeTo name (s.cells name s.arraySize) := by
  rw [cells, array?_apply_setElement, Option.getD_some]

/-- Different numbers are not indices of the same element. -/
theorem written?_disjoint {name : String} {i j a b : Float} (different : (i == j) = false)
    (k : Nat) :
    (Access.setElement name i a).written? x k = none
      ∨ (Access.setElement name j b).written? x k = none := by
  by_cases first : standsFor i k
  · right
    have second : standsFor j k = false := by
      rw [Bool.eq_false_iff]
      intro second
      have same := (Number.beq_iff (standsFor_iff.mp first) (standsFor_iff.mp second)).mpr rfl
      rw [different] at same
      exact Bool.false_ne_true same
    rw [Access.written?, second, Bool.and_false]
    rfl
  · left
    rw [Access.written?, Bool.eq_false_iff.mpr first, Bool.and_false]
    rfl

theorem writeTo_comm {a b : Access} {cells : Array Float}
    (disjoint : ∀ k, a.written? x k = none ∨ b.written? x k = none) :
    a.writeTo x (b.writeTo x cells) = b.writeTo x (a.writeTo x cells) := by
  refine Array.ext (by simp only [size_writeTo]) ?_
  intro k _ _
  simp only [Access.writeTo, Array.getElem_ofFn, Fin.getElem_fin]
  rcases disjoint k with none | none
  · rw [none, Option.getD_none, Option.getD_none]
  · rw [none, Option.getD_none, Option.getD_none]

/-! ## 3. Either order -/

theorem scalars_comm (independent : u.Independent v) :
    (v.apply (u.apply s)).scalars = (u.apply (v.apply s)).scalars := by
  refine SortedMap.ext_find? ?_
  intro x
  simp only [apply_eq, find?_scalars_apply]
  cases hu : u.access.set? x with
  | none => simp only [Option.none_or]
  | some a =>
    cases hv : v.access.set? x with
    | none => simp only [Option.none_or]
    | some b =>
      exfalso
      rcases independent with different | ⟨name, i, j, a, b, rfl, rfl, -⟩
      · exact different ((target_of_set? hu).trans (target_of_set? hv).symm)
      · cases hu

theorem array?_comm (independent : u.Independent v) (x : String) :
    (v.apply (u.apply s)).array? x = (u.apply (v.apply s)).array? x := by
  by_cases hu : u.target = .array x
  · by_cases hv : v.target = .array x
    · rcases independent with different | ⟨name, i, j, a, b, rfl, rfl, different⟩
      · exact absurd (hu.trans hv.symm) different
      · obtain rfl : name = x := Variable.array.inj hu
        -- whichever write comes first makes the array, if there is none, and of the same size
        rw [array?_apply_setElement, array?_apply_setElement, arraySize_apply, arraySize_apply,
          cells_apply_setElement, cells_apply_setElement]
        exact congrArg some (writeTo_comm (written?_disjoint different)).symm
    · rw [array?_apply_of_ne hv]
      exact array?_apply_congr (array?_apply_of_ne hv).symm (v.arraySize_apply s).symm
  · rw [array?_apply_of_ne hu]
    exact array?_apply_congr (array?_apply_of_ne hu) (u.arraySize_apply s)

/-- **Independent updates may be made in either order.** -/
theorem apply_comm (independent : u.Independent v) :
    v.apply (u.apply s) = u.apply (v.apply s) := by
  have arrays : (v.apply (u.apply s)).arrays = (u.apply (v.apply s)).arrays :=
    SortedMap.ext_find? (array?_comm independent)
  have sizes : (v.apply (u.apply s)).arraySize = (u.apply (v.apply s)).arraySize := by
    simp only [arraySize_apply]
  exact eq_of_parts (scalars_comm independent) arrays sizes

theorem answer_dim (s : Store) (name : String) (size : Nat) :
    (dim name size).answer s = .array (.ok (s.cells name size, (s.array? name).isNone)) := by
  rw [answer, perform, dimension_natCast, dim_eq]

theorem answer_setElement (s : Store) (name : String) (index value : Float) :
    (setElement name index value).answer s
      = .written ((checkIndex name index (s.cells name s.arraySize).size).map fun _ => ()) := by
  rw [answer, perform]
  cases h : checkIndex name index (s.cells name s.arraySize).size with
  | error e => rw [setElement_of_error h]; rfl
  | ok i => rw [setElement_of_ok h]; rfl

/-- **An update gives back the same after another one**, if that concerns another variable or if
both write elements. -/
theorem answer_apply (h : u.target ≠ v.target
      ∨ ∃ name i j a b, u = .setElement name i a ∧ v = .setElement name j b) :
    v.answer (u.apply s) = v.answer s := by
  cases v with
  | setScalar name value => rfl
  | dim name size =>
    have different : u.target ≠ .array name := by
      rcases h with different | ⟨_, _, _, _, _, _, impossible⟩
      · exact different
      · cases impossible
    rw [answer_dim, answer_dim, cells, cells, array?_apply_of_ne different]
  | setElement name index value =>
    have sizes : ((u.apply s).cells name s.arraySize).size = (s.cells name s.arraySize).size := by
      rcases h with different | ⟨_, i, _, a, _, rfl, same⟩
      · rw [cells, cells, array?_apply_of_ne different]
      · cases same
        rw [cells_apply_setElement, size_writeTo]
    rw [answer_setElement, answer_setElement, arraySize_apply, sizes]

end Update

/-! ## 4. What is shown -/

open Display (showVariables variablesTable)

/-- The row of a scalar. -/
def scalarRow (s : Store) (name : String) : List String := [name, Number.text (s.scalar name)]

/-- The rows of an array, one for each element with its position. -/
def elementRows (s : Store) (name : String) : List (List String) :=
  (s.array? name).elim [] fun a =>
    a.toList.zipIdx.map fun e => [name ++ "(" ++ toString e.2 ++ ")", Number.text e.1]

/-- Two stores look the same. -/
structure SameView (s t : Store) : Prop where
  scalarNames : s.scalarNames = t.scalarNames
  arrayNames : s.arrayNames = t.arrayNames
  snapshot : s.snapshot = t.snapshot
  shown : ∀ failure format, showVariables failure s format = showVariables failure t format

/-- The names are the keys of a map as they are listed. -/
structure Listed {α : Type} (m : SortedMap String α) (names : List String) : Prop where
  ascending : names.Pairwise fun x y => Text.bytes x < Text.bytes y
  mem_iff : ∀ x, x ∈ names ↔ (m.find? x).isSome
  /-- Whatever order the keys come in, each once, sorting them gives the names. -/
  sorted : ∀ order : List String, order.Nodup → (∀ x, x ∈ order ↔ (m.find? x).isSome) →
    order.mergeSort Text.notAfter = names

/-- What is shown of a store: by name, a row for every scalar and then for every element. -/
structure Listing (s : Store) : Prop where
  scalars : Listed s.scalars s.scalarNames
  arrays : Listed s.arrays s.arrayNames
  rows : (variablesTable s).rows
    = s.scalarNames.map s.scalarRow ++ s.arrayNames.flatMap s.elementRows

theorem mem_keys_iff {α : Type} {m : SortedMap String α} {x : String} :
    x ∈ m.keys ↔ (m.find? x).isSome := by
  rw [SortedMap.keys, List.mem_map, Option.isSome_iff_exists]
  constructor
  · rintro ⟨⟨y, a⟩, mem, rfl⟩
    exact ⟨a, SortedMap.mem_entries_iff.mp mem⟩
  · rintro ⟨a, found⟩
    exact ⟨(x, a), SortedMap.mem_entries_iff.mpr found, rfl⟩

theorem nodup_keys {α : Type} (m : SortedMap String α) : m.keys.Nodup := by
  refine m.keys_ascending.imp ?_
  rintro x _ lt rfl
  exact List.lt_irrefl _ lt

/-- **The keys of a map are listed by their bytes, whatever order they come in.** -/
theorem listed_keys {α : Type} (m : SortedMap String α) : Listed m m.keys := by
  refine ⟨m.keys_ascending, fun _ => mem_keys_iff, ?_⟩
  intro order nodup mem
  refine SortedMap.mergeSort_keys ((List.perm_ext_iff_of_nodup nodup (nodup_keys m)).mpr ?_)
  intro x
  rw [mem, mem_keys_iff]

theorem scalarRow_of_mem {s : Store} {name : String} {value : Float}
    (h : (name, value) ∈ s.scalars.entries) : s.scalarRow name = [name, Number.text value] := by
  rw [scalarRow, scalar, SortedMap.mem_entries_iff.mp h, Option.getD_some]

theorem elementRows_of_mem {s : Store} {name : String} {a : Array Float}
    (h : (name, a) ∈ s.arrays.entries) : s.elementRows name = Display.elementRows name a := by
  have found : s.array? name = some a := SortedMap.mem_entries_iff.mp h
  rw [elementRows, found, Display.elementRows, List.mapIdx_eq_zipIdx_map]
  rfl

theorem rows_variablesTable (s : Store) :
    (variablesTable s).rows
      = s.scalarNames.map s.scalarRow ++ s.arrayNames.flatMap s.elementRows := by
  rw [scalarNames, arrayNames, SortedMap.keys, SortedMap.keys, List.map_map, List.flatMap_map]
  refine congrArg₂ (· ++ ·) ?_ ?_
  · refine List.map_congr_left ?_
    rintro ⟨name, value⟩ mem
    exact (scalarRow_of_mem mem).symm
  · refine List.flatMap_congr ?_
    rintro ⟨name, a⟩ mem
    exact (elementRows_of_mem mem).symm

theorem listing (s : Store) : Listing s :=
  ⟨listed_keys s.scalars, listed_keys s.arrays, rows_variablesTable s⟩

theorem SameView.of_eq {s t : Store} (h : s = t) : SameView s t := by
  subst h
  exact ⟨rfl, rfl, rfl, fun _ _ => rfl⟩

/-- **Independent updates may be made in either order, and nobody can tell.**  Each gives back the
same, and afterwards the store looks the same; and what is shown of any store depends only on the
variables that exist and what they hold. -/
theorem updates_in_either_order (s : Store) {u v : Update} (independent : u.Independent v) :
    u.answer (v.apply s) = u.answer s ∧ v.answer (u.apply s) = v.answer s
      ∧ SameView (v.apply (u.apply s)) (u.apply (v.apply s))
      ∧ ∀ t : Store, Listing t := by
  refine ⟨?_, ?_, .of_eq (Update.apply_comm independent), listing⟩
  · refine Update.answer_apply ?_
    rcases independent with different | ⟨name, i, j, a, b, hu, hv, -⟩
    · exact .inl different.symm
    · exact .inr ⟨name, j, i, b, a, hv, hu⟩
  · refine Update.answer_apply ?_
    rcases independent with different | ⟨name, i, j, a, b, hu, hv, -⟩
    · exact .inl different
    · exact .inr ⟨name, i, j, a, b, hu, hv⟩

/-- A write that fails and makes the array, and one that succeeds. -/
theorem updates_in_either_order_new_array :
    (Update.setElement "A" 0.5 1).Independent (.setElement "A" 2 7)
      ∧ (Update.setElement "A" 0.5 1).answer ((Update.setElement "A" 2 7).apply (empty 3))
        = (Update.setElement "A" 0.5 1).answer (empty 3)
      ∧ SameView ((Update.setElement "A" 2 7).apply ((Update.setElement "A" 0.5 1).apply (empty 3)))
        ((Update.setElement "A" 0.5 1).apply ((Update.setElement "A" 2 7).apply (empty 3))) :=
  have independent : (Update.setElement "A" 0.5 1).Independent (.setElement "A" 2 7) :=
    .inr ⟨"A", 0.5, 2, 1, 7, rfl, rfl, by decide +kernel⟩
  ⟨independent, (updates_in_either_order (empty 3) independent).1,
    (updates_in_either_order (empty 3) independent).2.2.1⟩

end LineBasic.Store
