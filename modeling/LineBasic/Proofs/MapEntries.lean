/-
# Maps by what is found in them

The entries of a map and the values found in it are one thing seen twice: an entry is listed iff its
value is found under its key (`mem_entries_iff`).  The order of the entries is fixed by their keys,
so **a map is known by what is found in it** (`ext_find?`), and a list in ascending order is the
list of its entries as soon as it holds the right ones (`entries_eq`).

Two maps whose keys lie apart are listed together by listing one after the other
(`entries_eq_append`).
-/
import LineBasic.SortedMap
import Mathlib.Data.List.Sort

namespace LineBasic

variable {κ α : Type} [Ord κ]

/-! ## 1. Entries in order -/

/-- Two entries are never each before the other. -/
instance antisymm_before [Std.TransOrd κ] :
    Std.Antisymm fun a b : κ × α => compare a.1 b.1 = .lt where
  antisymm a b hab hba := by
    rw [Std.OrientedCmp.gt_of_lt hab] at hba
    cases hba

/-- No entry is before itself. -/
instance irrefl_before [Std.TransOrd κ] : Std.Irrefl fun a b : κ × α => compare a.1 b.1 = .lt where
  irrefl a h := by
    rw [Std.ReflOrd.compare_self] at h
    cases h

variable [Std.LawfulEqOrd κ]

/-- **What is found is what is listed.** -/
theorem valueUnder?_eq_some_iff {k : κ} {a : α} {entries : List (κ × α)}
    (ascending : Ascending entries) : valueUnder? k entries = some a ↔ (k, a) ∈ entries := by
  induction entries with
  | nil => simp [valueUnder?]
  | cons e rest ih =>
    obtain ⟨first, others⟩ := List.pairwise_cons.mp ascending
    obtain ⟨key, value⟩ := e
    rw [valueUnder?, List.mem_cons]
    by_cases same : compare k key = .eq
    · obtain rfl : k = key := Std.LawfulEqCmp.eq_of_compare same
      have beyond : (k, a) ∉ rest := fun mem => by
        have lt := first _ mem
        rw [same] at lt
        cases lt
      simp [beyond, eq_comm]
    · have other : k ≠ key := by
        rintro rfl
        exact same Std.ReflOrd.compare_self
      simp [same, other, ih others]

namespace SortedMap

/-! ## 2. Maps -/

variable {m m' : SortedMap κ α}

theorem mem_entries_iff {k : κ} {a : α} : (k, a) ∈ m.entries ↔ m.find? k = some a :=
  (valueUnder?_eq_some_iff m.ascending).symm

omit [Std.LawfulEqOrd κ] in
theorem ext_entries (h : m.entries = m'.entries) : m = m' := by
  obtain ⟨entries, ascending⟩ := m
  obtain ⟨entries', ascending'⟩ := m'
  cases h
  rfl

variable [Std.TransOrd κ]

/-- The entries of a map are the list in ascending order that holds what is found in it. -/
theorem entries_eq {entries : List (κ × α)} (ascending : Ascending entries)
    (h : ∀ k a, (k, a) ∈ entries ↔ m.find? k = some a) : m.entries = entries := by
  refine m.ascending.eq_of_mem_iff ascending fun e => ?_
  rw [mem_entries_iff, h e.1 e.2]

/-- **A map is known by what is found in it.** -/
theorem ext_find? (h : ∀ k, m.find? k = m'.find? k) : m = m' := by
  refine ext_entries (entries_eq m'.ascending fun k a => ?_)
  rw [mem_entries_iff, h k]

/-- **Maps that lie apart are listed one after the other.** -/
theorem entries_eq_append {whole : SortedMap κ α}
    (apart : ∀ k ∈ m.keys, ∀ k' ∈ m'.keys, compare k k' = .lt)
    (together : ∀ k, whole.find? k = (m.find? k).or (m'.find? k)) :
    whole.entries = m.entries ++ m'.entries := by
  have ascending : Ascending (m.entries ++ m'.entries) := by
    refine List.pairwise_append.mpr ⟨m.ascending, m'.ascending, fun e he e' he' => ?_⟩
    exact apart e.1 (List.mem_map_of_mem he) e'.1 (List.mem_map_of_mem he')
  refine entries_eq ascending fun k a => ?_
  rw [List.mem_append, mem_entries_iff, mem_entries_iff, together, Option.or_eq_some_iff]
  constructor
  · rintro (here | there)
    · exact .inl here
    · refine .inr ⟨?_, there⟩
      -- a key of both maps would be below itself
      rw [Option.eq_none_iff_forall_ne_some]
      intro b hb
      have lt := apart k (List.mem_map_of_mem (mem_entries_iff.mpr hb)) k
        (List.mem_map_of_mem (mem_entries_iff.mpr there))
      rw [Std.ReflOrd.compare_self] at lt
      cases lt
  · rintro (here | ⟨-, there⟩)
    · exact .inl here
    · exact .inr there

end SortedMap

end LineBasic
