/-
# Finite maps in key order

A finite map is the list of its entries, strictly ascending by key.  The order is part of the
type, so two maps with the same entries are equal and whatever is listed from a map comes out
in key order, however the map was filled.  What a map holds is seen through `find?`:
`find?_insert` and `find?_erase` say what becomes of every key.
-/

namespace LineBasic

universe u v

variable {κ : Type u} [Ord κ] {α : Type v}

/-! ## 1. Entries in strictly ascending order -/

/-- Strictly ascending by key. -/
def Ascending (entries : List (κ × α)) : Prop :=
  entries.Pairwise fun a b => compare a.1 b.1 = .lt

/-- The entry with a key, put in its place or in the place of the one that had the key. -/
def insertEntry (k : κ) (a : α) : List (κ × α) → List (κ × α)
  | [] => [(k, a)]
  | e :: rest =>
    match compare k e.1 with
    | .lt => (k, a) :: e :: rest
    | .eq => (k, a) :: rest
    | .gt => e :: insertEntry k a rest

/-- The entries without the one that has the key. -/
def eraseEntry (k : κ) (entries : List (κ × α)) : List (κ × α) :=
  entries.filter fun e => compare k e.1 ≠ .eq

/-- The value under a key. -/
def valueUnder? (k : κ) : List (κ × α) → Option α
  | [] => none
  | e :: rest => if compare k e.1 = .eq then some e.2 else valueUnder? k rest

theorem mem_insertEntry {k : κ} {a : α} {entries : List (κ × α)} {e : κ × α}
    (h : e ∈ insertEntry k a entries) : e = (k, a) ∨ e ∈ entries := by
  induction entries with
  | nil => simp_all [insertEntry]
  | cons e' rest ih =>
    simp only [insertEntry] at h
    split at h <;> simp_all <;> grind

theorem ascending_insertEntry [Std.TransOrd κ] (k : κ) (a : α) {entries : List (κ × α)}
    (h : Ascending entries) : Ascending (insertEntry k a entries) := by
  induction entries with
  | nil => simp [insertEntry, Ascending]
  | cons e rest ih =>
    obtain ⟨first, others⟩ := List.pairwise_cons.mp h
    simp only [insertEntry]
    split
    · rename_i lt
      refine List.pairwise_cons.mpr ⟨fun e' he' => ?_, h⟩
      rcases List.mem_cons.mp he' with rfl | he'
      · exact lt
      · exact Std.TransCmp.lt_trans lt (first e' he')
    · rename_i eq
      refine List.pairwise_cons.mpr ⟨fun e' he' => ?_, others⟩
      exact Std.TransCmp.lt_of_eq_of_lt eq (first e' he')
    · rename_i gt
      refine List.pairwise_cons.mpr ⟨fun e' he' => ?_, ih others⟩
      rcases mem_insertEntry he' with rfl | he'
      · exact Std.OrientedCmp.lt_of_gt gt
      · exact first e' he'

theorem ascending_eraseEntry (k : κ) {entries : List (κ × α)} (h : Ascending entries) :
    Ascending (eraseEntry k entries) := h.filter _

theorem valueUnder?_insertEntry [Std.TransOrd κ] (k k' : κ) (a : α) (entries : List (κ × α)) :
    valueUnder? k' (insertEntry k a entries) =
      if compare k' k = .eq then some a else valueUnder? k' entries := by
  induction entries with
  | nil => simp [insertEntry, valueUnder?]
  | cons e rest ih =>
    simp only [insertEntry]
    split
    · simp [valueUnder?]
    · rename_i same
      have : compare k' k = compare k' e.1 := Std.TransCmp.congr_right same
      by_cases h : compare k' e.1 = .eq <;> simp [valueUnder?, this, h]
    · rename_i gt
      by_cases h : compare k' e.1 = .eq
      · have : compare k' k ≠ .eq := fun h' => by
          have := Std.TransCmp.eq_trans (Std.OrientedCmp.eq_symm h') h
          simp [this] at gt
        simp [valueUnder?, h, this]
      · simp [valueUnder?, h, ih]

theorem valueUnder?_eraseEntry [Std.TransOrd κ] (k k' : κ) (entries : List (κ × α)) :
    valueUnder? k' (eraseEntry k entries) =
      if compare k' k = .eq then none else valueUnder? k' entries := by
  induction entries with
  | nil => simp [eraseEntry, valueUnder?]
  | cons e rest ih =>
    have ih : valueUnder? k' (rest.filter fun e => compare k e.1 ≠ .eq) = _ := ih
    by_cases gone : compare k e.1 = .eq
    · have : compare k' k = compare k' e.1 := Std.TransCmp.congr_right gone
      by_cases h : compare k' e.1 = .eq <;> simp_all [eraseEntry, valueUnder?]
    · by_cases h : compare k' e.1 = .eq
      · have : compare k' k ≠ .eq := fun h' =>
          gone (Std.TransCmp.eq_trans (Std.OrientedCmp.eq_symm h') h)
        simp [eraseEntry, valueUnder?, gone, h, this]
      · simp_all [eraseEntry, valueUnder?]

/-! ## 2. Maps -/

/-- A finite map: its entries, strictly ascending by key. -/
structure SortedMap (κ : Type u) [Ord κ] (α : Type v) where
  entries : List (κ × α)
  ascending : Ascending entries

namespace SortedMap

/-- The map without entries. -/
def empty : SortedMap κ α := ⟨[], List.Pairwise.nil⟩

instance : EmptyCollection (SortedMap κ α) := ⟨empty⟩

/-- Puts `a` under the key `k`, whatever was there before. -/
def insert [Std.TransOrd κ] (m : SortedMap κ α) (k : κ) (a : α) : SortedMap κ α :=
  ⟨insertEntry k a m.entries, ascending_insertEntry k a m.ascending⟩

/-- Nothing under the key `k`. -/
def erase (m : SortedMap κ α) (k : κ) : SortedMap κ α :=
  ⟨eraseEntry k m.entries, ascending_eraseEntry k m.ascending⟩

/-- The value under a key. -/
def find? (m : SortedMap κ α) (k : κ) : Option α := valueUnder? k m.entries

/-- An empty map has nothing under any key. -/
@[simp]
theorem find?_empty (k : κ) : (∅ : SortedMap κ α).find? k = none := rfl

/-- Putting a value under a key changes what is found there and nowhere else. -/
@[simp]
theorem find?_insert [Std.TransOrd κ] (m : SortedMap κ α) (k k' : κ) (a : α) :
    (m.insert k a).find? k' = if compare k' k = .eq then some a else m.find? k' :=
  valueUnder?_insertEntry k k' a m.entries

/-- Clearing a key leaves every other key alone. -/
@[simp]
theorem find?_erase [Std.TransOrd κ] (m : SortedMap κ α) (k k' : κ) :
    (m.erase k).find? k' = if compare k' k = .eq then none else m.find? k' :=
  valueUnder?_eraseEntry k k' m.entries

/-- There is a value under the key. -/
def contains (m : SortedMap κ α) (k : κ) : Bool := (m.find? k).isSome

/-- The keys, ascending. -/
def keys (m : SortedMap κ α) : List κ := m.entries.map (·.1)

/-- The number of keys. -/
def size (m : SortedMap κ α) : Nat := m.entries.length

end SortedMap

end LineBasic
