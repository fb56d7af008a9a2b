/-
# Doubles and the numbers they stand for

A double has two readings.  `Binary64.ofFloat` reads its bits as a whole number of steps; the
library that doubles come from takes them apart into a sign, a significand and an exponent, and
makes all comparisons on these.  The two readings are one (`reads`), and it is said once what they
can be (`Reads`).

* The significand is full unless the exponent is the least (`Canonical`).  So exponents may be
  compared before significands, and **finite doubles compare as the numbers they stand for**
  (`compare_of_exactly`).
* A ratio that some double stands for is not changed by rounding: **the double nearest to it stands
  for it** (`ofFloat_ofRatio`), and there is no other with its sign (`eq_of_ofFloat`).  So natural
  numbers of up to 53 bits are doubles, and so is every double without its fraction
  (`ofFloat_truncated`).
* A double that is a natural number is turned into that number (`toUInt64_of_exactly`).
-/
import LineBasic.Proofs.CellMemory
import Mathlib

namespace LineBasic.Number

open Float.Model (UnpackedFloat)
open Float.Model.UnpackedFloat (Sign)

/-! ## 1. The two readings -/

/-- The significand and the power of two of a double that is not zero: all 53 bits are used, or
the power is the least. -/
structure Canonical (m p : Nat) : Prop where
  pos : 0 < m
  fits : m < 2 ^ 53
  full : 2 ^ 52 ≤ m ∨ p = 0

/-- The sign is a minus. -/
def isMinus : Sign → Bool
  | .negative => true
  | .positive => false

/-- What a double that is taken apart stands for. -/
inductive Reads : UnpackedFloat → Binary64 → Prop
  | nan : Reads .notANumber .nan
  | infinite (sign : Sign) : Reads (.infinity sign) (.infinite (isMinus sign))
  | zero (sign : Sign) : Reads (.zero sign) (.finite (isMinus sign) 0)
  | finite (sign : Sign) {m p : Nat} (canonical : Canonical m p) (finite : p < 2046) :
    Reads (.finite sign m ((p : Int) - 1074) canonical.pos)
      (.finite (isMinus sign) (m * Nat.pow 2 p))

theorem toNat_unpackExponent (b : BitVec 64) :
    (@UnpackedFloat.unpackExponent .binary64 b).toNat = b.toNat / 2 ^ 52 % 2 ^ 11 := by
  rw [UnpackedFloat.unpackExponent_def, BitVec.extractLsb'_toNat, Nat.shiftRight_eq_div_pow]

theorem toNat_unpackMantissa (b : BitVec 64) :
    (@UnpackedFloat.unpackMantissa .binary64 b).toNat = b.toNat % 2 ^ 52 := by
  rw [UnpackedFloat.unpackMantissa_def, BitVec.extractLsb'_toNat]
  rfl

theorem toNat_unpackSign (b : BitVec 64) :
    (@UnpackedFloat.unpackSign .binary64 b).toNat = b.toNat / 2 ^ 63 := by
  rw [UnpackedFloat.unpackSign_def, BitVec.extractLsb'_toNat, Nat.shiftRight_eq_div_pow]
  have := b.isLt
  change b.toNat / 2 ^ 63 % 2 ^ 1 = _
  omega

theorem isMinus_ofBitVec (b : BitVec 64) :
    isMinus (Sign.ofBitVec (@UnpackedFloat.unpackSign .binary64 b))
      = decide (2 ^ 63 ≤ b.toNat) := by
  have sign := toNat_unpackSign b
  have lt := b.isLt
  unfold Sign.ofBitVec
  split
  case isTrue h =>
    rw [h] at sign
    exact (decide_eq_false (by change 0 = _ at sign; omega)).symm
  case isFalse h =>
    rw [← BitVec.toNat_inj, sign] at h
    exact (decide_eq_true (by change _ ≠ 0 at h; omega)).symm

theorem power_add {m p : Nat} (canonical : Canonical m p) : power (m + p * 2 ^ 52) = p := by
  obtain ⟨-, fits, full⟩ := canonical
  change (m + p * 2 ^ 52) / 2 ^ 52 - 1 = p
  omega

theorem significand_add {m p : Nat} (canonical : Canonical m p) :
    significand (m + p * 2 ^ 52) = m := by
  rw [significand, power_add canonical]
  exact Nat.add_sub_cancel m _

theorem Reads.of_pattern {s : Sign} {n m p pattern : Nat} {e : Int} {pos : 0 < n}
    (canonical : Canonical m p) (finite : p < 2046) (hn : n = m) (he : e = p - 1074)
    (sum : pattern = m + p * 2 ^ 52) :
    Reads (.finite s n e pos)
      (.finite (isMinus s) (significand pattern * Nat.pow 2 (power pattern))) := by
  subst hn he sum
  rw [significand_add canonical, power_add canonical]
  exact .finite s canonical finite

/-- The fields of a double, taken apart. -/
def ofFields (s : Sign) (E : BitVec 11) (M : BitVec 52) : UnpackedFloat :=
  if E = -1 then
    if M = 0 then .infinity s else .notANumber
  else if E = 0 then
    if h : M = 0 then .zero s
    else .finite s M.toNat ((E.toNat : Int) - 1075 + 1) (Nat.pos_of_ne_zero (by
      rwa [← BitVec.toNat_inj] at h))
  else .finite s (1#1 ++ M).toNat ((E.toNat : Int) - 1075) (by
    rw [BitVec.toNat_append]
    exact Nat.lt_of_lt_of_le (by decide) Nat.left_le_or)

/-- This is how the library takes a double apart. -/
theorem unpack_eq_ofFields (x : Float) :
    x.toModel.unpack = ofFields
      (Sign.ofBitVec (@UnpackedFloat.unpackSign .binary64 x.toModel.toBits.toBitVec))
      (@UnpackedFloat.unpackExponent .binary64 x.toModel.toBits.toBitVec)
      (@UnpackedFloat.unpackMantissa .binary64 x.toModel.toBits.toBitVec) := rfl

theorem toNat_leading (M : BitVec 52) : (1#1 ++ M).toNat = M.toNat + 2 ^ 52 := by
  rw [BitVec.toNat_append, ← Nat.shiftLeft_add_eq_or_of_lt M.isLt]
  exact Nat.add_comm _ _

theorem reads_ofFields (s : Sign) (E : BitVec 11) (M : BitVec 52) {pattern : Nat}
    (sum : pattern = M.toNat + E.toNat * 2 ^ 52) :
    Reads (ofFields s E M)
      (if pattern < infinityPattern then
        .finite (isMinus s) (significand pattern * Nat.pow 2 (power pattern))
      else if pattern = infinityPattern then .infinite (isMinus s) else .nan) := by
  have infinity : infinityPattern = 2047 * 2 ^ 52 := rfl
  have fraction := M.isLt
  have nonzero : M ≠ 0 → 0 < M.toNat := fun h => by bv_omega
  unfold ofFields
  -- an exponent of ones is no number, one of zeros says that there is no leading bit
  by_cases special : E = -1
  · subst special
    change _ = _ + 2047 * _ at sum
    have beyond : ¬ pattern < infinityPattern := by omega
    rw [if_pos rfl, if_neg beyond]
    by_cases empty : M = 0
    · subst empty
      have top : pattern = infinityPattern := sum
      rw [if_pos rfl, if_pos top]
      exact .infinite s
    · have above : pattern ≠ infinityPattern := by
        have := nonzero empty
        omega
      rw [if_neg empty, if_neg above]
      exact .nan
  · have ordinary : E.toNat < 2047 := by bv_omega
    have below : pattern < infinityPattern := by omega
    rw [if_neg special, if_pos below]
    by_cases least : E = 0
    · subst least
      change _ = _ + 0 * _ at sum
      rw [if_pos rfl]
      split
      case isTrue empty =>
        subst empty sum
        exact .zero s
      case isFalse filled =>
        exact .of_pattern ⟨nonzero filled, by omega, .inr rfl⟩ (by decide) rfl rfl sum
    · have pos : 0 < E.toNat := by bv_omega
      have leading := toNat_leading M
      have canonical : Canonical (M.toNat + 2 ^ 52) (E.toNat - 1) :=
        ⟨by omega, by omega, .inl (by omega)⟩
      rw [if_neg least]
      exact .of_pattern canonical (by omega) leading (by omega) (by omega)

/-- **Taken apart, a double stands for what its bits say.** -/
theorem reads (x : Float) : Reads x.toModel.unpack (Binary64.ofFloat x) := by
  have sign :
      isMinus (Sign.ofBitVec (@UnpackedFloat.unpackSign .binary64 x.toModel.toBits.toBitVec))
        = isNegative x := isMinus_ofBitVec _
  rw [unpack_eq_ofFields]
  unfold Binary64.ofFloat
  rw [← sign]
  apply reads_ofFields
  rw [toNat_unpackMantissa, toNat_unpackExponent]
  change x.toModel.toBits.toBitVec.toNat % 2 ^ 63 = _
  omega

/-! ## 2. Exact values -/

/-- The number that a double taken apart is. -/
def value? : UnpackedFloat → Option ℚ
  | .zero _ => some 0
  | .finite sign m e _ => some (sign.apply m * 2 ^ e)
  | _ => none

/-- The number that a double is, if it is one. -/
def exactly? (x : Float) : Option ℚ := value? x.toModel.unpack

/-- A number of steps with its sign. -/
def Binary64.steps? : Binary64 → Option ℤ
  | .finite negative steps => some (if negative then -steps else steps)
  | _ => none

theorem exists_one_eq : ∃ k : Nat, 1074 = k ∧ one = 2 ^ k := by
  unfold one
  generalize 1074 = k
  exact ⟨k, rfl, rfl⟩

theorem zpow_eq_div (b : ℚ) (e : ℤ) : b ^ e = b ^ e.toNat / b ^ (-e).toNat := by
  obtain ⟨k, rfl | rfl⟩ := e.eq_nat_or_neg
  · simp
  · simp [zpow_neg]

theorem zpow_power (p : Nat) : (2 : ℚ) ^ ((p : ℤ) - 1074) = 2 ^ p / one := by
  obtain ⟨k, least, unit⟩ := exists_one_eq
  have cast : (1074 : ℤ) = k := congrArg Nat.cast least
  rw [cast, unit, zpow_sub₀ two_ne_zero, zpow_natCast, zpow_natCast, Nat.cast_pow, Nat.cast_ofNat]

theorem Reads.value?_eq {u : UnpackedFloat} {b : Binary64} (h : Reads u b) :
    value? u = b.steps?.map fun steps : ℤ => (steps : ℚ) / one := by
  cases h with
  | nan | infinite s => rfl
  | zero s =>
    simp only [value?, Binary64.steps?]
    generalize one = unit
    cases s <;> simp
  | @finite s m p canonical small =>
    have pow : Nat.pow 2 p = 2 ^ p := rfl
    simp only [value?, Binary64.steps?, zpow_power, pow]
    generalize one = unit
    cases s <;> simp [Sign.apply, isMinus, mul_div_assoc, neg_div]

/-- The number that a double is, read off its bits. -/
theorem exactly?_eq (x : Float) :
    exactly? x = (Binary64.ofFloat x).steps?.map fun steps : ℤ => (steps : ℚ) / one :=
  (reads x).value?_eq

/-! ## 3. Comparisons -/

theorem mul_pow_lt_mul_pow {m p n q : Nat} (hm : Canonical m p) (hn : Canonical n q) (lt : p < q) :
    m * 2 ^ p < n * 2 ^ q := by
  have full : 2 ^ 52 ≤ n := hn.full.resolve_right (by omega)
  calc m * 2 ^ p < 2 ^ 53 * 2 ^ p := Nat.mul_lt_mul_of_pos_right hm.fits (Nat.two_pow_pos p)
    _ = 2 ^ 52 * 2 ^ (p + 1) := by ring
    _ ≤ n * 2 ^ q := Nat.mul_le_mul full (Nat.pow_le_pow_right (by decide) lt)

theorem compare_congr {α β : Type} [LinearOrder α] [LinearOrder β] {a b : α} {c d : β}
    (lt : a < b ↔ c < d) (gt : b < a ↔ d < c) : compare a b = compare c d := by
  rcases lt_trichotomy a b with h | h | h
  · rw [compare_lt_iff_lt.mpr h, compare_lt_iff_lt.mpr (lt.mp h)]
  · have : c = d := le_antisymm (not_lt.mp (mt gt.mpr h.not_gt)) (not_lt.mp (mt lt.mpr h.not_lt))
    rw [compare_eq_iff_eq.mpr h, compare_eq_iff_eq.mpr this]
  · rw [compare_gt_iff_gt.mpr h, compare_gt_iff_gt.mpr (gt.mp h)]

/-- Exponents may be compared before significands. -/
theorem compare_then_compare {m p n q : Nat} (hm : Canonical m p) (hn : Canonical n q) :
    (compare ((p : ℤ) - 1074) (q - 1074)).then (compare m n) = compare (m * 2 ^ p) (n * 2 ^ q) := by
  rcases lt_trichotomy p q with h | rfl | h
  · have lt : (p : ℤ) - 1074 < q - 1074 := by omega
    rw [compare_lt_iff_lt.mpr lt, compare_lt_iff_lt.mpr (mul_pow_lt_mul_pow hm hn h)]
    rfl
  · rw [compare_eq_iff_eq.mpr rfl, Ordering.then]
    exact compare_congr (Nat.mul_lt_mul_right (Nat.two_pow_pos p)).symm
      (Nat.mul_lt_mul_right (Nat.two_pow_pos p)).symm
  · have gt : (q : ℤ) - 1074 < p - 1074 := by omega
    rw [compare_gt_iff_gt.mpr gt, compare_gt_iff_gt.mpr (mul_pow_lt_mul_pow hn hm h)]
    rfl

/-- Signs are compared first: what they leave to compare is compared as it is, or the other way. -/
theorem compare_signed (s t : Sign) {a b : Nat} (ha : 0 < a) (hb : 0 < b) :
    compare (if isMinus s then -(a : ℤ) else a) (if isMinus t then -(b : ℤ) else b)
      = match s, t with
        | .positive, .positive => compare a b
        | .negative, .negative => (compare a b).swap
        | .positive, .negative => .gt
        | .negative, .positive => .lt := by
  cases s <;> cases t
  case negative.negative =>
    rw [Nat.compare_swap]
    exact compare_congr (by simp [isMinus]) (by simp [isMinus])
  case negative.positive => exact compare_lt_iff_lt.mpr (by simp [isMinus]; omega)
  case positive.negative => exact compare_gt_iff_gt.mpr (by simp [isMinus]; omega)
  case positive.positive => exact compare_congr (by simp [isMinus]) (by simp [isMinus])

theorem compare_zero_signed (t : Sign) {b : Nat} (hb : 0 < b) :
    compare 0 (if isMinus t then -(b : ℤ) else b)
      = match t with
        | .positive => .lt
        | .negative => .gt := by
  cases t
  case negative => exact compare_gt_iff_gt.mpr (by simp [isMinus]; omega)
  case positive => exact compare_lt_iff_lt.mpr (by simp [isMinus]; omega)

theorem compare_signed_zero (s : Sign) {a : Nat} (ha : 0 < a) :
    compare (if isMinus s then -(a : ℤ) else a) 0
      = match s with
        | .positive => .gt
        | .negative => .lt := by
  cases s
  case negative => exact compare_lt_iff_lt.mpr (by simp [isMinus]; omega)
  case positive => exact compare_gt_iff_gt.mpr (by simp [isMinus]; omega)

theorem steps?_zero (negative : Bool) : (Binary64.finite negative 0).steps? = some 0 := by
  cases negative <;> rfl

/-- Finite doubles compare as their numbers of steps. -/
theorem Reads.compare_eq {u v : UnpackedFloat} {a b : Binary64} {j k : ℤ} (hu : Reads u a)
    (hv : Reads v b) (hj : a.steps? = some j) (hk : b.steps? = some k) :
    u.compare v = some (compare j k) := by
  cases hu with
  | nan | infinite s => contradiction
  | zero s =>
    obtain rfl := Option.some.inj ((steps?_zero _).symm.trans hj)
    cases hv with
    | nan | infinite s => contradiction
    | zero t =>
      obtain rfl := Option.some.inj ((steps?_zero _).symm.trans hk)
      rfl
    | @finite t n q hn small =>
      have pos : 0 < n * Nat.pow 2 q := Nat.mul_pos hn.pos (Nat.two_pow_pos q)
      obtain rfl := Option.some.inj hk
      rw [compare_zero_signed t pos]
      cases t <;> rfl
  | @finite s m p hm small =>
    have mpos : 0 < m * Nat.pow 2 p := Nat.mul_pos hm.pos (Nat.two_pow_pos p)
    obtain rfl := Option.some.inj hj
    cases hv with
    | nan | infinite s => contradiction
    | zero t =>
      obtain rfl := Option.some.inj ((steps?_zero _).symm.trans hk)
      rw [compare_signed_zero s mpos]
      cases s <;> rfl
    | @finite t n q hn small =>
      have npos : 0 < n * Nat.pow 2 q := Nat.mul_pos hn.pos (Nat.two_pow_pos q)
      obtain rfl := Option.some.inj hk
      rw [compare_signed s t mpos npos]
      have := compare_then_compare hm hn
      cases s <;> cases t
      case negative.negative => exact congrArg (fun o => some o.swap) this
      case positive.positive => exact congrArg some this
      all_goals rfl

variable {x y : Float} {q r : ℚ}

/-- **Finite doubles compare as the numbers they are.** -/
theorem compare_of_exactly (hx : exactly? x = some q) (hy : exactly? y = some r) :
    x.toModel.unpack.compare y.toModel.unpack = some (compare q r) := by
  rw [exactly?_eq, Option.map_eq_some_iff] at hx hy
  obtain ⟨j, hj, rfl⟩ := hx
  obtain ⟨k, hk, rfl⟩ := hy
  rw [(reads x).compare_eq (reads y) hj hk]
  have pos : (0 : ℚ) < one := Nat.cast_pos.mpr one_pos
  generalize (one : ℚ) = unit at pos
  have lt : ∀ a b : ℤ, a < b ↔ (a : ℚ) / unit < b / unit := by
    intro a b
    rw [div_lt_div_iff_of_pos_right pos, Int.cast_lt]
  exact congrArg some (compare_congr (lt j k) (lt k j))

theorem lt_iff (hx : exactly? x = some q) (hy : exactly? y = some r) : x < y ↔ q < r := by
  change (decide ((x.toModel.unpack.compare y.toModel.unpack == some .lt) = true)) = true ↔ _
  rw [compare_of_exactly hx hy, ← compare_lt_iff_lt]
  simp

theorem le_iff (hx : exactly? x = some q) (hy : exactly? y = some r) : x ≤ y ↔ q ≤ r := by
  change (decide ((x.toModel.unpack.compare y.toModel.unpack).any Ordering.isLE = true)) = true ↔ _
  rw [compare_of_exactly hx hy, ← compare_le_iff_le]
  simp [Ordering.isLE_iff_ne_gt]

theorem beq_iff (hx : exactly? x = some q) (hy : exactly? y = some r) : x == y ↔ q = r := by
  change (x.toModel.unpack.compare y.toModel.unpack == some .eq) = true ↔ _
  rw [compare_of_exactly hx hy, ← compare_eq_iff_eq]
  simp

/-! ## 4. Rounding what needs none -/

theorem isNaNBits_of_le {b : BitVec 64} (le : b.toNat % 2 ^ 63 ≤ infinityPattern) :
    @UnpackedFloat.isNaNBits .binary64 b = false := by
  refine decide_eq_false ?_
  rintro ⟨top, filled⟩
  have exponent := toNat_unpackExponent b
  rw [top] at exponent
  change 2047 = _ at exponent
  have infinity : infinityPattern = 2047 * 2 ^ 52 := rfl
  apply filled
  rw [← BitVec.toNat_inj, toNat_unpackMantissa]
  change _ = 0
  omega

/-- The sign bit of a double. -/
def signBit (negative : Bool) : Nat := if negative then Nat.pow 2 63 else 0

theorem signBit_eq (negative : Bool) :
    negative = false ∧ signBit negative = 0 ∨ negative = true ∧ signBit negative = 2 ^ 63 := by
  cases negative
  · exact .inl ⟨rfl, rfl⟩
  · exact .inr ⟨rfl, rfl⟩

theorem toBits_ofPattern (negative : Bool) {p : Nat} (le : p ≤ infinityPattern) :
    (ofPattern negative p).toBits.toNat = p + signBit negative := by
  have infinity : infinityPattern = 2047 * 2 ^ 52 := rfl
  have bit := signBit_eq negative
  have word : (UInt64.ofNat (p + signBit negative)).toBitVec.toNat = p + signBit negative :=
    Nat.mod_eq_of_lt (by omega)
  have number := isNaNBits_of_le (b := (UInt64.ofNat (p + signBit negative)).toBitVec) (by omega)
  have bits : (ofPattern negative p).toBits.toBitVec
      = (UInt64.ofNat (p + signBit negative)).toBitVec := by
    refine (UnpackedFloat.pack_unpack _).trans ?_
    exact if_neg (Bool.eq_false_iff.mp number)
  exact (congrArg BitVec.toNat bits).trans word

theorem ofFloat_ofPattern (negative : Bool) {p : Nat} (lt : p < infinityPattern) :
    Binary64.ofFloat (ofPattern negative p)
      = .finite negative (significand p * Nat.pow 2 (power p)) := by
  have infinity : infinityPattern = 2047 * 2 ^ 52 := rfl
  have bit := signBit_eq negative
  have bits := toBits_ofPattern negative lt.le
  have magnitude : magnitudePattern (ofPattern negative p) = p := by
    change (ofPattern negative p).toBits.toNat % 2 ^ 63 = p
    omega
  have sign : isNegative (ofPattern negative p) = negative := by
    change decide (2 ^ 63 ≤ (ofPattern negative p).toBits.toNat) = negative
    rw [bits]
    obtain ⟨rfl, bit⟩ | ⟨rfl, bit⟩ := bit
    · exact decide_eq_false (by omega)
    · exact decide_eq_true (by omega)
  rw [Binary64.ofFloat, magnitude, sign, if_pos lt]

theorem roundDiv_mul {m d : Nat} (pos : 0 < d) : roundDiv (m * d) d = m := by
  simp only [roundDiv, Nat.mul_div_cancel m pos, Nat.mul_mod_left]
  have down : (decide (d < 2 * 0) || (decide (2 * 0 = d) && decide (m % 2 = 1))) = false := by
    simp [pos.ne]
  rw [down, if_neg Bool.false_ne_true]

theorem log2_mul_two_pow {m : Nat} (pos : 0 < m) (p : Nat) :
    Nat.log2 (m * 2 ^ p) = Nat.log2 m + p := by
  induction p with
  | zero => rw [Nat.pow_zero, Nat.mul_one, Nat.add_zero]
  | succ p ih =>
    have ne : m * 2 ^ p ≠ 0 := (Nat.mul_pos pos (Nat.two_pow_pos p)).ne'
    rw [Nat.pow_succ, ← Nat.mul_assoc, Nat.log2_eq_log_two, Nat.log_mul_base one_lt_two ne,
      ← Nat.log2_eq_log_two, ih, Nat.add_assoc]

theorem log2_sub_of_canonical {m p : Nat} (h : Canonical m p) : Nat.log2 (m * 2 ^ p) - 52 = p := by
  rw [log2_mul_two_pow h.pos]
  have lt := (Nat.log2_lt h.pos.ne').mpr h.fits
  rcases h.full with full | rfl
  · have le := (Nat.le_log2 h.pos.ne').mpr full
    omega
  · omega

/-- A ratio that is a number of steps as a double has them is not changed by rounding. -/
theorem pattern_of_canonical {m p num den : Nat} (h : Canonical m p) (small : p < 2046)
    (pos : 0 < den) (exact : num * one = m * 2 ^ p * den) :
    pattern num den = m + p * 2 ^ 52 := by
  have infinity : infinityPattern = 2047 * 2 ^ 52 := rfl
  have fits := h.fits
  have pow : Nat.pow 2 p = 2 ^ p := rfl
  have unit : 0 < den * 2 ^ p := Nat.mul_pos pos (Nat.two_pow_pos p)
  have split : m * 2 ^ p * den = m * (den * 2 ^ p) := by ring
  simp only [pattern, exact, Nat.mul_div_cancel _ pos, log2_sub_of_canonical h]
  rw [pow, split, roundDiv_mul unit]
  exact min_eq_right (by change m + p * 2 ^ 52 ≤ _; omega)

theorem ofFloat_ofRatio_of_canonical (negative : Bool) {m p num den : Nat} (h : Canonical m p)
    (small : p < 2046) (pos : 0 < den) (exact : num * one = m * 2 ^ p * den) :
    Binary64.ofFloat (ofRatio negative num den) = .finite negative (m * 2 ^ p) := by
  have infinity : infinityPattern = 2047 * 2 ^ 52 := rfl
  have fits := h.fits
  rw [ofRatio, pattern_of_canonical h small pos exact, ofFloat_ofPattern negative (by omega),
    significand_add h, power_add h]
  rfl

theorem pattern_zero (den : Nat) : pattern 0 den = 0 := by simp [pattern, roundDiv]

theorem ofFloat_ofRatio_zero (negative : Bool) (den : Nat) :
    Binary64.ofFloat (ofRatio negative 0 den) = .finite negative 0 := by
  rw [ofRatio, pattern_zero, ofFloat_ofPattern negative (by decide)]
  rfl

/-- **A ratio that some double stands for is what the nearest double stands for.** -/
theorem ofFloat_ofRatio {minus negative : Bool} {steps num den : Nat} {x : Float}
    (hx : Binary64.ofFloat x = .finite minus steps) (pos : 0 < den)
    (exact : num * one = steps * den) :
    Binary64.ofFloat (ofRatio negative num den) = .finite negative steps := by
  have h := reads x
  rw [hx] at h
  generalize x.toModel.unpack = u at h
  cases h with
  | zero s =>
    have zero : num = 0 := by
      rw [Nat.zero_mul, Nat.mul_eq_zero] at exact
      exact exact.resolve_right one_pos.ne'
    rw [zero]
    exact ofFloat_ofRatio_zero negative den
  | finite s canonical small =>
    exact ofFloat_ofRatio_of_canonical negative canonical small pos exact

theorem canonical_of_pattern {p : Nat} (pos : 0 < p) :
    Canonical (significand p) (power p) ∧ significand p + power p * 2 ^ 52 = p := by
  have split : significand p = p - power p * 2 ^ 52 := rfl
  have quotient : power p = p / 2 ^ 52 - 1 := rfl
  refine ⟨⟨?_, ?_, ?_⟩, ?_⟩ <;> omega

/-- The bits of a finite double are those of the number it stands for. -/
theorem bits_of_finite {negative : Bool} {steps : Nat}
    (hx : Binary64.ofFloat x = .finite negative steps) :
    magnitudePattern x = pattern steps one ∧ isNegative x = negative := by
  unfold Binary64.ofFloat at hx
  dsimp only at hx
  split_ifs at hx with finite
  obtain ⟨rfl, rfl⟩ : isNegative x = negative
      ∧ significand (magnitudePattern x) * 2 ^ power (magnitudePattern x) = steps := by
    injection hx with sign magnitude
    exact ⟨sign, magnitude⟩
  refine ⟨?_, rfl⟩
  generalize magnitudePattern x = p at finite
  rcases Nat.eq_zero_or_pos p with rfl | pos
  · exact (pattern_zero one).symm
  · have infinity : infinityPattern = 2047 * 2 ^ 52 := rfl
    obtain ⟨canonical, sum⟩ := canonical_of_pattern pos
    have least := canonical.full
    rw [pattern_of_canonical canonical (by omega) one_pos rfl, sum]

/-- **A finite double is given by its sign and the number it stands for.** -/
theorem eq_of_ofFloat {negative : Bool} {steps : Nat}
    (hx : Binary64.ofFloat x = .finite negative steps)
    (hy : Binary64.ofFloat y = .finite negative steps) : x = y := by
  obtain ⟨xbits, xsign⟩ := bits_of_finite hx
  obtain ⟨ybits, ysign⟩ := bits_of_finite hy
  have magnitude : x.toBits.toNat % 2 ^ 63 = y.toBits.toNat % 2 ^ 63 := xbits.trans ybits.symm
  have sign : 2 ^ 63 ≤ x.toBits.toNat ↔ 2 ^ 63 ≤ y.toBits.toNat :=
    decide_eq_decide.mp (xsign.trans ysign.symm)
  have xlt := x.toBits.toNat_lt
  have ylt := y.toBits.toNat_lt
  exact Float.toBits_inj.mp (UInt64.toNat_inj.mp (by omega))

/-- Whole numbers of up to 53 bits are numbers of steps as doubles have them. -/
theorem exists_canonical_of_le {n : Nat} (pos : 0 < n) (le : n ≤ 2 ^ 53) :
    ∃ m p, Canonical m p ∧ p < 2046 ∧ n * one = m * 2 ^ p := by
  obtain ⟨k, least, unit⟩ := exists_one_eq
  rw [unit]
  clear unit
  rcases le.lt_or_eq with lt | rfl
  · have short := (Nat.log2_lt pos.ne').mpr lt
    have lower := Nat.log2_self_le pos.ne'
    have upper := @Nat.lt_log2_self n
    generalize Nat.log2 n = bits at *
    refine ⟨n * 2 ^ (52 - bits), k - 52 + bits, ⟨?_, ?_, .inl ?_⟩, by omega, ?_⟩
    · exact Nat.mul_pos pos (Nat.two_pow_pos _)
    · calc n * 2 ^ (52 - bits) < 2 ^ (bits + 1) * 2 ^ (52 - bits) :=
            Nat.mul_lt_mul_of_pos_right upper (Nat.two_pow_pos _)
        _ = 2 ^ 53 := by rw [← Nat.pow_add]; congr 1; omega
    · calc 2 ^ 52 = 2 ^ bits * 2 ^ (52 - bits) := by rw [← Nat.pow_add]; congr 1; omega
        _ ≤ n * 2 ^ (52 - bits) := Nat.mul_le_mul_right _ lower
    · rw [Nat.mul_assoc, ← Nat.pow_add]
      congr 2
      omega
  · refine ⟨2 ^ 52, k + 1, ⟨by decide, by decide, .inl le_rfl⟩, by omega, ?_⟩
    ring

theorem ofFloat_ofRatio_of_le (negative : Bool) {n : Nat} (le : n ≤ 2 ^ 53) :
    Binary64.ofFloat (ofRatio negative n 1) = .finite negative (n * one) := by
  rcases Nat.eq_zero_or_pos n with rfl | pos
  · rw [Nat.zero_mul]
    exact ofFloat_ofRatio_zero negative 1
  · obtain ⟨m, p, canonical, small, exact⟩ := exists_canonical_of_le pos le
    rw [exact]
    refine ofFloat_ofRatio_of_canonical negative canonical small Nat.one_pos ?_
    rw [exact, Nat.mul_one]

/-! ## 5. Whole parts -/

theorem mantissa_shiftRight (m : UnpackedFloat.ExtendedMantissa) (n : Nat) :
    (m >>> n).mantissa = m.mantissa / 2 ^ n := by
  induction n with
  | zero => exact (Nat.div_one _).symm
  | succ n ih =>
    change (m >>> n).mantissa / 2 = _
    rw [ih, Nat.div_div_eq_div_mul, Nat.pow_succ]

/-- The whole part of a significand at a power of two. -/
theorem roundToInt_eq (s : Sign) (m : Nat) (e : ℤ) :
    UnpackedFloat.roundToInt s m e = s.apply (m * 2 ^ e.toNat / 2 ^ (-e).toNat : Nat) := by
  have right : (0 - (e - e.toNat)).toNat = (-e).toNat := by omega
  simp only [UnpackedFloat.roundToInt, UnpackedFloat.decreaseExponent,
    UnpackedFloat.shiftToExponent]
  rw [mantissa_shiftRight, Int.sub_zero, right, Nat.shiftLeft_eq]
  rfl

theorem mul_two_pow_eq {m n : Nat} {e : ℤ} (h : (m : ℚ) * 2 ^ e = n) :
    m * 2 ^ e.toNat = n * 2 ^ (-e).toNat := by
  rw [zpow_eq_div, ← mul_div_assoc, div_eq_iff (by positivity)] at h
  exact_mod_cast h

theorem toInt_of_value {u : UnpackedFloat} {n : Nat} (h : value? u = some (n : ℚ)) (lo hi : ℤ) :
    u.toInt lo hi = n := by
  cases u with
  | notANumber | infinity s => contradiction
  | zero s =>
    have zero : (0 : ℚ) = n := Option.some.inj h
    change (0 : ℤ) = n
    exact_mod_cast zero
  | finite s m e pos =>
    have equal : (s.apply m : ℚ) * 2 ^ e = n := Option.some.inj h
    have mpos : (0 : ℚ) < m * 2 ^ e := by positivity
    change UnpackedFloat.roundToInt s m e = n
    rw [roundToInt_eq]
    cases s
    case negative =>
      have nonneg : (0 : ℚ) ≤ n := Nat.cast_nonneg n
      simp only [Sign.apply, Int.cast_neg, Int.cast_natCast, neg_mul] at equal
      linarith
    case positive =>
      have whole := mul_two_pow_eq equal
      rw [whole, Nat.mul_div_cancel n (Nat.two_pow_pos _)]
      rfl

/-- **A double that is a natural number is turned into that number.** -/
theorem toUInt64_of_exactly {n : Nat} (h : exactly? x = some (n : ℚ)) (lt : n < 2 ^ 64) :
    x.toUInt64.toNat = n := by
  change (UInt64.ofNatClamp (x.toModel.unpack.toInt 0 (UInt64.size - 1)).toNat).toNat = n
  have fits : n < UInt64.size := lt
  rw [toInt_of_value h, Int.toNat_natCast, UInt64.ofNatClamp, dif_pos fits]
  rfl

/-- A double without its fraction. -/
def truncated (x : Float) : Float :=
  match Binary64.ofFloat x with
  | .finite negative steps => ofRatio negative (steps / one) 1
  | _ => x

/-- A double with a fraction has a whole part of at most 53 bits. -/
theorem div_one_le {minus : Bool} {steps : Nat} (hx : Binary64.ofFloat x = .finite minus steps)
    (fraction : steps % one ≠ 0) : steps / one ≤ 2 ^ 53 := by
  have h := reads x
  rw [hx] at h
  generalize x.toModel.unpack = u at h
  obtain ⟨k, -, unit⟩ := exists_one_eq
  rw [unit] at fraction ⊢
  cases h with
  | zero s => rw [Nat.zero_div]; exact Nat.zero_le _
  | @finite s m p canonical small =>
    change m * 2 ^ p % 2 ^ k ≠ 0 at fraction
    change m * 2 ^ p / 2 ^ k ≤ _
    have lt : p < k := by
      by_contra ge
      exact fraction (Nat.mod_eq_zero_of_dvd
        (Dvd.dvd.mul_left (Nat.pow_dvd_pow 2 (Nat.le_of_not_lt ge)) m))
    calc m * 2 ^ p / 2 ^ k ≤ m * 2 ^ k / 2 ^ k :=
          Nat.div_le_div_right (Nat.mul_le_mul_left m (Nat.pow_le_pow_right two_pos lt.le))
      _ = m := Nat.mul_div_cancel m (Nat.two_pow_pos k)
      _ ≤ 2 ^ 53 := canonical.fits.le

theorem ofFloat_truncated {negative : Bool} {steps : Nat}
    (hx : Binary64.ofFloat x = .finite negative steps) :
    Binary64.ofFloat (truncated x) = .finite negative (steps / one * one) := by
  rw [truncated, hx]
  by_cases whole : steps % one = 0
  · have exact : steps / one * one = steps := Nat.div_mul_cancel (Nat.dvd_of_mod_eq_zero whole)
    rw [exact]
    exact ofFloat_ofRatio hx Nat.one_pos (by rw [exact, Nat.mul_one])
  · exact ofFloat_ofRatio_of_le negative (div_one_le hx whole)

/-! ## 6. Doubles that are no numbers -/

theorem isNaN_iff : x.isNaN ↔ Binary64.ofFloat x = .nan := by
  have h := reads x
  change x.toModel.unpack.isNaN = true ↔ _
  generalize x.toModel.unpack = u, Binary64.ofFloat x = b at h
  cases h <;> simp [UnpackedFloat.isNaN]

theorem isInf_iff : x.isInf ↔ ∃ negative, Binary64.ofFloat x = .infinite negative := by
  have h := reads x
  change x.toModel.unpack.isInf = true ↔ _
  generalize x.toModel.unpack = u, Binary64.ofFloat x = b at h
  cases h <;> simp [UnpackedFloat.isInf]

theorem unpack_of_infinite {negative : Bool} (hx : Binary64.ofFloat x = .infinite negative) :
    x.toModel.unpack = .infinity (if negative then .negative else .positive) := by
  have h := reads x
  rw [hx] at h
  generalize x.toModel.unpack = u at h
  cases h with
  | infinite s => cases s <;> rfl

end LineBasic.Number
