/-
# Texts in the order of their bytes

Maps list their keys in the order of characters.  Written as bytes, texts have an order too: byte by
byte, and a text before all its continuations.  **The two orders are one** (`compare_eq_lt_iff`),
because a smaller character differs from a larger one at some byte of its encoding, and is smaller
there (`encode_append_lt`).

So there is one way to sort names by bytes, **whatever order they come in** (`mergeSort_keys`).
-/
import LineBasic.Proofs.ByteDecoding
import LineBasic.Proofs.MapEntries
import Mathlib

namespace LineBasic

namespace Text

open String (utf8EncodeChar)

/-! ## 1. Characters -/

theorem ofNat_cons_lt {m n : Nat} {xs ys : List UInt8} (small : n < 256)
    (h : m < n ∨ m = n ∧ xs < ys) : UInt8.ofNat m :: xs < UInt8.ofNat n :: ys := by
  rw [List.cons_lt_cons_iff]
  rcases h with lt | ⟨rfl, tail⟩
  · left
    rw [UInt8.lt_iff_toNat_lt, Utf8.toNat_ofNat_of_lt (by omega), Utf8.toNat_ofNat_of_lt small]
    exact lt
  · exact .inr ⟨rfl, tail⟩

/-- Of two numbers, the digits before the last are compared first. -/
theorem last_digit_cases {v w : Nat} (h : v < w) :
    v / 64 < w / 64 ∨ v / 64 = w / 64 ∧ v % 64 < w % 64 := by
  omega

theorem two_bytes_lt {v w : Nat} {xs ys : List UInt8} (h : v < w) (small : w < 0x800) :
    UInt8.ofNat (v / 64 % 32 + 192) :: UInt8.ofNat (v % 64 + 128) :: xs
      < UInt8.ofNat (w / 64 % 32 + 192) :: UInt8.ofNat (w % 64 + 128) :: ys := by
  rcases last_digit_cases h with first | ⟨same, last⟩
  · exact ofNat_cons_lt (by omega) (.inl (by omega))
  · exact ofNat_cons_lt (by omega) (.inr ⟨by omega, ofNat_cons_lt (by omega) (.inl (by omega))⟩)

theorem three_bytes_lt {v w : Nat} {xs ys : List UInt8} (h : v < w) (small : w < 0x10000) :
    UInt8.ofNat (v / 4096 % 16 + 224) :: UInt8.ofNat (v / 64 % 64 + 128)
        :: UInt8.ofNat (v % 64 + 128) :: xs
      < UInt8.ofNat (w / 4096 % 16 + 224) :: UInt8.ofNat (w / 64 % 64 + 128)
        :: UInt8.ofNat (w % 64 + 128) :: ys := by
  rcases last_digit_cases h with before | ⟨same, last⟩
  · rcases last_digit_cases before with first | ⟨same, second⟩
    · exact ofNat_cons_lt (by omega) (.inl (by omega))
    · exact ofNat_cons_lt (by omega) (.inr ⟨by omega, ofNat_cons_lt (by omega) (.inl (by omega))⟩)
  · refine ofNat_cons_lt (by omega) (.inr ⟨by omega, ?_⟩)
    exact ofNat_cons_lt (by omega) (.inr ⟨by omega, ofNat_cons_lt (by omega) (.inl (by omega))⟩)

theorem four_bytes_lt {v w : Nat} {xs ys : List UInt8} (h : v < w) (small : w < 0x200000) :
    UInt8.ofNat (v / 262144 % 8 + 240) :: UInt8.ofNat (v / 4096 % 64 + 128)
        :: UInt8.ofNat (v / 64 % 64 + 128) :: UInt8.ofNat (v % 64 + 128) :: xs
      < UInt8.ofNat (w / 262144 % 8 + 240) :: UInt8.ofNat (w / 4096 % 64 + 128)
        :: UInt8.ofNat (w / 64 % 64 + 128) :: UInt8.ofNat (w % 64 + 128) :: ys := by
  rcases last_digit_cases h with before | ⟨same, last⟩
  · rcases last_digit_cases before with before | ⟨same, third⟩
    · rcases last_digit_cases before with first | ⟨same, second⟩
      · exact ofNat_cons_lt (by omega) (.inl (by omega))
      · exact ofNat_cons_lt (by omega) (.inr ⟨by omega, ofNat_cons_lt (by omega) (.inl (by omega))⟩)
    · refine ofNat_cons_lt (by omega) (.inr ⟨by omega, ?_⟩)
      exact ofNat_cons_lt (by omega) (.inr ⟨by omega, ofNat_cons_lt (by omega) (.inl (by omega))⟩)
  · refine ofNat_cons_lt (by omega) (.inr ⟨by omega, ?_⟩)
    refine ofNat_cons_lt (by omega) (.inr ⟨by omega, ?_⟩)
    exact ofNat_cons_lt (by omega) (.inr ⟨by omega, ofNat_cons_lt (by omega) (.inl (by omega))⟩)

/-- A smaller character has the smaller encoding, whatever follows. -/
theorem encode_append_lt {c d : Char} (h : c < d) (xs ys : List UInt8) :
    utf8EncodeChar c ++ xs < utf8EncodeChar d ++ ys := by
  have lt : c.val.toNat < d.val.toNat := h
  have bound : d.val.toNat < 0x110000 := by
    rcases d.valid with h | ⟨-, h⟩
    · exact Nat.lt_trans h (by decide)
    · exact h
  simp only [utf8EncodeChar]
  generalize c.val.toNat = v at lt
  generalize d.val.toNat = w at lt bound
  -- encodings of the same length are compared byte by byte; of others the first bytes differ
  by_cases w1 : w ≤ 127
  · rw [if_pos (by omega : v ≤ 127), if_pos w1]
    exact ofNat_cons_lt (by omega) (.inl lt)
  rw [if_neg w1]
  by_cases v1 : v ≤ 127
  · rw [if_pos v1]
    split_ifs <;> exact ofNat_cons_lt (by omega) (.inl (by omega))
  rw [if_neg v1]
  by_cases w2 : w ≤ 2047
  · rw [if_pos (by omega : v ≤ 2047), if_pos w2]
    exact two_bytes_lt lt (by omega)
  rw [if_neg w2]
  by_cases v2 : v ≤ 2047
  · rw [if_pos v2]
    split_ifs <;> exact ofNat_cons_lt (by omega) (.inl (by omega))
  rw [if_neg v2]
  by_cases w3 : w ≤ 65535
  · rw [if_pos (by omega : v ≤ 65535), if_pos w3]
    exact three_bytes_lt lt (by omega)
  rw [if_neg w3]
  by_cases v3 : v ≤ 65535
  · rw [if_pos v3]
    exact ofNat_cons_lt (by omega) (.inl (by omega))
  rw [if_neg v3]
  exact four_bytes_lt lt (by omega)

/-! ## 2. Texts -/

/-- The bytes of a text. -/
def bytes (s : String) : List UInt8 := s.toUTF8.data.toList

theorem bytes_eq (s : String) : bytes s = s.toList.flatMap utf8EncodeChar := by
  rw [bytes, String.toUTF8_eq_toByteArray, ← String.utf8Encode_toList, List.utf8Encode]
  exact congrArg Array.toList List.data_toByteArray

theorem utf8EncodeChar_ne_nil (c : Char) : utf8EncodeChar c ≠ [] := by
  intro empty
  have length := String.length_utf8EncodeChar c
  rw [empty] at length
  exact absurd length c.utf8Size_pos.ne

theorem flatMap_encode_lt {cs ds : List Char} (h : cs < ds) :
    cs.flatMap utf8EncodeChar < ds.flatMap utf8EncodeChar := by
  induction cs generalizing ds with
  | nil =>
    cases ds with
    | nil => exact absurd h (List.lt_irrefl [])
    | cons d ds =>
      obtain ⟨b, bs, first⟩ := List.exists_cons_of_ne_nil (utf8EncodeChar_ne_nil d)
      rw [List.flatMap_nil, List.flatMap_cons, first]
      exact List.nil_lt_cons b _
  | cons c cs ih =>
    cases ds with
    | nil => exact absurd h (List.not_lt_nil _)
    | cons d ds =>
      rw [List.flatMap_cons, List.flatMap_cons]
      rcases List.cons_lt_cons_iff.mp h with lt | ⟨rfl, rest⟩
      · exact encode_append_lt lt _ _
      · exact List.append_left_lt (ih rest)

theorem bytes_lt_of_compare {s t : String} (h : compare s t = .lt) : bytes s < bytes t := by
  change String.compare s t = .lt at h
  rw [String.compare, compareOfLessAndEq_eq_lt] at h
  rw [bytes_eq, bytes_eq]
  exact flatMap_encode_lt h

/-- **Texts are in the order of their bytes.** -/
theorem compare_eq_lt_iff {s t : String} : compare s t = .lt ↔ bytes s < bytes t := by
  constructor
  · exact bytes_lt_of_compare
  · intro lt
    cases order : compare s t with
    | lt => rfl
    | eq =>
      obtain rfl := Std.LawfulEqCmp.eq_of_compare order
      exact absurd lt (List.lt_irrefl _)
    | gt => exact absurd lt (List.lt_asymm (bytes_lt_of_compare (Std.OrientedCmp.lt_of_gt order)))

/-! ## 3. Sorting -/

/-- One text is not after another, by bytes. -/
def notAfter (s t : String) : Bool := !decide (bytes t < bytes s)

theorem notAfter_iff {s t : String} : notAfter s t ↔ (compare s t).isLE := by
  rw [notAfter, Bool.not_eq_true', decide_eq_false_iff_not, ← compare_eq_lt_iff,
    ← Std.OrientedCmp.gt_iff_lt, Ordering.isLE_iff_ne_gt]

theorem notAfter_trans (s t u : String) (hst : notAfter s t) (htu : notAfter t u) :
    notAfter s u := by
  rw [notAfter_iff] at *
  exact Std.TransCmp.isLE_trans hst htu

theorem notAfter_total (s t : String) : notAfter s t || notAfter t s := by
  rw [Bool.or_eq_true, notAfter_iff, notAfter_iff]
  by_cases before : (compare s t).isLE
  · exact .inl before
  · right
    rw [Std.OrientedCmp.lt_of_not_isLE before]
    rfl

theorem eq_of_notAfter {s t : String} (hst : notAfter s t) (hts : notAfter t s) : s = t := by
  rw [notAfter_iff] at *
  exact Std.LawfulEqCmp.eq_of_compare (Std.OrientedCmp.isLE_antisymm hst hts)

end Text

namespace SortedMap

variable {α : Type} {m : SortedMap String α}

/-- The keys of a map are ascending, byte by byte. -/
theorem keys_ascending (m : SortedMap String α) :
    m.keys.Pairwise fun s t => Text.bytes s < Text.bytes t := by
  rw [keys, List.pairwise_map]
  exact m.ascending.imp Text.compare_eq_lt_iff.mp

/-- **Sorted by bytes, the keys of a map are in their order, whatever order they come in.** -/
theorem mergeSort_keys {order : List String} (h : order.Perm m.keys) :
    order.mergeSort Text.notAfter = m.keys := by
  have sorted : m.keys.Pairwise fun s t => Text.notAfter s t := by
    rw [keys, List.pairwise_map]
    refine m.ascending.imp ?_
    intro s t lt
    rw [Text.notAfter_iff, lt]
    rfl
  refine List.Perm.eq_of_pairwise ?_ (List.pairwise_mergeSort Text.notAfter_trans
    Text.notAfter_total order) sorted ((List.mergeSort_perm order _).trans h)
  intro s t _ _
  exact Text.eq_of_notAfter

end SortedMap

end LineBasic
