/-
# Line numbers in decimal

A text is a line number iff it is the number in ASCII digits, with as many zeros in front as it
likes (`parse_eq_ok_iff`).  The scan gives up at the first prefix beyond 65535.  That is no loss,
because a longer prefix never stands for a smaller number.
-/
import LineBasic.LineNumber
import Mathlib.Tactic.Common

namespace LineBasic.LineNumber

/-- The text is the number in decimal, perhaps after some zeros. -/
structure IsDecimal (text : String) (n : UInt16) : Prop where
  nonempty : text.toList ≠ []
  digits : ∀ c ∈ text.toList, c.isDigit
  value : Nat.ofDigitChars 10 text.toList 0 = n.toNat

/-- Digits that follow never make a number smaller. -/
theorem le_ofDigitChars (n : Nat) (cs : List Char) : n ≤ Nat.ofDigitChars 10 cs n := by
  induction cs generalizing n with
  | nil => simp
  | cons c cs ih =>
    rw [Nat.ofDigitChars_cons]
    have := ih (10 * n + (c.toNat - '0'.toNat))
    omega

theorem scan_of_digits {n : Nat} {cs : List Char} (digits : ∀ c ∈ cs, c.isDigit)
    (bound : Nat.ofDigitChars 10 cs n ≤ 65535) : scan n cs = .ok (Nat.ofDigitChars 10 cs n) := by
  induction cs generalizing n with
  | nil => simp [scan]
  | cons c cs ih =>
    rw [Nat.ofDigitChars_cons] at bound ⊢
    have small := le_ofDigitChars (10 * n + (c.toNat - '0'.toNat)) cs
    rw [scan, if_pos (digits c (by simp)), if_neg (by omega)]
    exact ih (fun d hd => digits d (by simp [hd])) bound

/-- What a scan that ends well has seen. -/
theorem digits_of_scan {n m : Nat} {cs : List Char} (h : scan n cs = .ok m) :
    (∀ c ∈ cs, c.isDigit) ∧ Nat.ofDigitChars 10 cs n = m ∧ (cs = [] ∨ m ≤ 65535) := by
  induction cs generalizing n with
  | nil =>
    cases h
    simp
  | cons c cs ih =>
    simp only [scan] at h
    split_ifs at h with hc large
    obtain ⟨digits, value, bound⟩ := ih h
    refine ⟨?_, by rw [Nat.ofDigitChars_cons]; exact value, .inr ?_⟩
    · intro d hd
      rcases List.mem_cons.mp hd with rfl | hd
      · exact hc
      · exact digits d hd
    · rcases bound with rfl | bound
      · cases h
        omega
      · exact bound

/-- **The line numbers are the decimals up to 65535.** -/
theorem parse_eq_ok_iff {text : String} {n : UInt16} : parse text = .ok n ↔ IsDecimal text n := by
  constructor
  · intro h
    unfold parse at h
    split at h
    · cases h
    · rename_i cs nonempty
      obtain ⟨m, hm, hn⟩ : ∃ m, scan 0 text.toList = .ok m ∧ UInt16.ofNat m = n := by
        cases hscan : scan 0 text.toList with
        | error problem =>
          rw [hscan] at h
          cases h
        | ok m =>
          rw [hscan] at h
          cases h
          exact ⟨m, rfl, rfl⟩
      obtain ⟨digits, value, bound⟩ := digits_of_scan hm
      refine ⟨nonempty, digits, ?_⟩
      have bound : m ≤ 65535 := bound.resolve_left nonempty
      rw [value, ← hn, UInt16.toNat_ofNat_of_lt' (Nat.lt_of_le_of_lt bound (by decide))]
  · intro h
    have bound : n.toNat ≤ 65535 := by
      have := n.toNat_lt
      omega
    have hscan := scan_of_digits h.digits (h.value ▸ bound)
    unfold parse
    split
    · exact absurd ‹_› h.nonempty
    · rw [hscan, h.value]
      exact congrArg Except.ok (UInt16.ofNat_toNat)

end LineBasic.LineNumber
