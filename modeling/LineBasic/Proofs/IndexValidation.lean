/-
# Which numbers are indices

An index is any double: no number at all, an infinity, or a fraction of a power of two with a sign.
What is to happen is said of the number it is (`exactly?`), and of comparisons of doubles where it
is none:

* it is invalid if it is no number, below zero, or not whole (`IsInvalid`);
* it is beyond the end if it is the positive infinity or a natural number not below the size
  (`IsBeyond`);
* else it is a natural number below the size, and that is the position.

The check **decides exactly this, for every double and every size** (`checkIndex_exact`).  It also
comes to the same as testing the double itself, in the order that keeps every test meaningful
(`tested`): the fraction is only looked at where there is a number, the size only compared with what
is not negative, and the conversion to a word only made below the size.  For this the size has to be
a double, as all sizes of up to 53 bits are.
-/
import LineBasic.Proofs.Doubles

namespace LineBasic

open Number

variable {name : String} {index : Float} {size : Nat}

/-! ## 1. The three kinds of indices -/

/-- The index can be no position: it is no number, below zero, or not whole. -/
def IsInvalid (index : Float) : Prop :=
  index.isNaN ∨ index < 0 ∨ ∃ q, exactly? index = some q ∧ ∀ n : ℤ, q ≠ n

/-- The index lies beyond the end. -/
def IsBeyond (index : Float) (size : Nat) : Prop :=
  (index.isInf ∧ 0 < index) ∨ ∃ n : ℕ, exactly? index = some (n : ℚ) ∧ size ≤ n

theorem exactly?_zero : exactly? 0 = some 0 := rfl

theorem lt_zero_of_infinite {negative : Bool} (h : Binary64.ofFloat index = .infinite negative) :
    index < 0 ↔ negative := by
  change decide ((index.toModel.unpack.compare (.zero .positive) == some .lt) = true) = true ↔ _
  rw [unpack_of_infinite h]
  cases negative <;> decide

theorem zero_lt_of_infinite {negative : Bool} (h : Binary64.ofFloat index = .infinite negative) :
    0 < index ↔ ¬ negative := by
  change decide ((Float.Model.UnpackedFloat.compare (.zero .positive) index.toModel.unpack
    == some .lt) = true) = true ↔ _
  rw [unpack_of_infinite h]
  cases negative <;> decide

theorem exactly?_of_finite {negative : Bool} {steps : Nat}
    (h : Binary64.ofFloat index = .finite negative steps) :
    exactly? index = some (((if negative then -steps else steps : ℤ) : ℚ) / one) := by
  rw [exactly?_eq, h]
  rfl

/-- A finite number is below zero if it has the sign and is not zero. -/
theorem lt_zero_of_finite {negative : Bool} {steps : Nat}
    (h : Binary64.ofFloat index = .finite negative steps) :
    index < 0 ↔ negative ∧ steps ≠ 0 := by
  rw [lt_iff (exactly?_of_finite h) exactly?_zero]
  have pos : (0 : ℚ) < one := Nat.cast_pos.mpr Number.one_pos
  generalize (one : ℚ) = unit at pos
  rw [div_lt_iff₀ pos, zero_mul]
  cases negative
  · simp
  · simp [Nat.pos_iff_ne_zero]

/-- A finite number is whole if its steps are whole multiples of those of one. -/
theorem exists_int_iff {negative : Bool} {steps : Nat} :
    (∃ n : ℤ, ((if negative then -steps else steps : ℤ) : ℚ) / one = n) ↔ steps % one = 0 := by
  have ne : (one : ℚ) ≠ 0 := Nat.cast_ne_zero.mpr Number.one_pos.ne'
  generalize one = unit at ne
  have signs : (unit : ℤ) ∣ (if negative then -steps else steps : ℤ) ↔ unit ∣ steps := by
    cases negative <;> simp [Int.natCast_dvd_natCast]
  rw [← Nat.dvd_iff_mod_eq_zero, ← signs]
  generalize (if negative then -steps else steps : ℤ) = j
  constructor
  · rintro ⟨n, equal⟩
    rw [div_eq_iff ne, mul_comm] at equal
    exact ⟨n, by exact_mod_cast equal⟩
  · rintro ⟨n, rfl⟩
    refine ⟨n, ?_⟩
    rw [div_eq_iff ne, mul_comm]
    push_cast
    rfl

theorem has_fraction_iff {negative : Bool} {steps : Nat}
    (h : Binary64.ofFloat index = .finite negative steps) :
    (∃ q, exactly? index = some q ∧ ∀ n : ℤ, q ≠ n) ↔ steps % one ≠ 0 := by
  rw [exactly?_of_finite h, Ne, ← @exists_int_iff negative steps]
  simp only [Option.some.injEq, exists_eq_left', ne_eq, not_exists]

theorem exactly?_of_infinite {negative : Bool} (h : Binary64.ofFloat index = .infinite negative) :
    exactly? index = none := by
  rw [exactly?_eq, h]
  rfl

/-- An index stands for a position if it is that number. -/
theorem standsFor_iff {i : Nat} : standsFor index i ↔ exactly? index = some (i : ℚ) := by
  have pos := Number.one_pos
  rw [standsFor, exactly?_eq]
  generalize Binary64.ofFloat index = x
  cases x with
  | nan | infinite negative => exact iff_of_false Bool.false_ne_true (Option.some_ne_none _).symm
  | finite negative steps =>
    simp only [Binary64.isWhole, Binary64.steps?, Option.map_some, Option.some.injEq]
    generalize one = unit at pos
    have ne : (unit : ℚ) ≠ 0 := Nat.cast_ne_zero.mpr pos.ne'
    have cast : ∀ j : ℤ, (j : ℚ) = i * unit ↔ j = (i * unit : ℕ) := by
      intro j
      norm_cast
    rw [div_eq_iff ne, cast]
    have zero : i * unit = 0 ↔ i = 0 := by rw [Nat.mul_eq_zero, or_iff_left pos.ne']
    cases negative
    · simp only [Bool.not_false, Bool.true_or, Bool.and_true, decide_eq_true_eq, Bool.false_eq_true,
        if_false, Int.natCast_inj]
    · simp only [Bool.not_true, Bool.false_or, Bool.and_eq_true, decide_eq_true_eq, if_true, ← zero]
      omega

/-! ## 2. What is reported -/

theorem position_eq_invalid_iff :
    position size (Binary64.ofFloat index) = .error .invalid ↔ IsInvalid index := by
  rw [IsInvalid, isNaN_iff]
  cases h : Binary64.ofFloat index with
  | nan => simp [position]
  | infinite negative =>
    rw [lt_zero_of_infinite h, exactly?_of_infinite h]
    cases negative <;> simp [position]
  | finite negative steps =>
    rw [lt_zero_of_finite h, has_fraction_iff h]
    simp only [position]
    -- the unit is too large a number to compute with
    generalize one = unit
    split_ifs with bad far
    · simpa [or_comm] using bad
    · simpa [and_comm] using bad
    · simpa [and_comm] using bad

theorem position_eq_beyond_iff :
    position size (Binary64.ofFloat index) = .error .beyond ↔ IsBeyond index size := by
  rw [IsBeyond, isInf_iff]
  simp only [← standsFor_iff]
  cases h : Binary64.ofFloat index with
  | nan => simp [position, standsFor, h, Binary64.isWhole]
  | infinite negative =>
    rw [zero_lt_of_infinite h]
    cases negative <;> simp [position, standsFor, h, Binary64.isWhole]
  | finite negative steps =>
    simp only [position, standsFor, h, Binary64.isWhole]
    have pos := Number.one_pos
    generalize one = unit at pos
    have infinite : ¬ ∃ sign, Binary64.finite negative steps = .infinite sign := by simp
    rw [or_iff_right (not_and_of_not_left _ infinite)]
    simp only [Bool.and_eq_true, decide_eq_true_eq, @eq_mul_iff unit steps _ pos]
    have zero : steps % unit = 0 → (steps = 0 ↔ steps / unit = 0) := by
      intro whole
      rw [Nat.div_eq_zero_iff_lt pos]
      exact ⟨fun h => h ▸ pos, fun h => by rwa [Nat.mod_eq_of_lt h] at whole⟩
    split_ifs with bad far
    · grind
    · grind
    · grind

/-- An index that is not invalid is the positive infinity or a natural number. -/
theorem infinite_or_natural (valid : ¬ IsInvalid index) :
    Binary64.ofFloat index = .infinite false ∨ ∃ n : ℕ, exactly? index = some (n : ℚ) := by
  rw [← @position_eq_invalid_iff index 0] at valid
  cases h : position 0 (Binary64.ofFloat index) with
  | ok i => exact absurd (position_eq_ok_iff.mp h).2 (Nat.not_lt_zero i)
  | error problem =>
    cases problem with
    | invalid => exact absurd h valid
    | beyond =>
      rcases position_eq_beyond_iff.mp h with ⟨infinite, positive⟩ | ⟨n, number, -⟩
      · obtain ⟨negative, infinite⟩ := isInf_iff.mp infinite
        rw [zero_lt_of_infinite infinite, Bool.not_eq_true] at positive
        exact .inl (positive ▸ infinite)
      · exact .inr ⟨n, number⟩

/-- **Every rejected index is reported for the reason it has.** -/
theorem checkIndex_eq_error_iff {e : AccessError} :
    checkIndex name index size = .error e
      ↔ IsInvalid index ∧ e = .invalidIndex name index
        ∨ IsBeyond index size ∧ e = .outOfBounds name index size := by
  rw [← @position_eq_invalid_iff index size, ← position_eq_beyond_iff]
  unfold checkIndex
  cases position size (Binary64.ofFloat index) with
  | ok i => simp
  | error problem => cases problem <;> simp [eq_comm]

/-! ## 3. Testing the double -/

/-- The index of a named array, tested as a double. -/
def tested (name : String) (index : Float) (size : Nat) : Except AccessError Nat :=
  if index.isNaN || index < 0 || index != truncated index then .error (.invalidIndex name index)
  else if ofRatio false size 1 ≤ index then .error (.outOfBounds name index size)
  else .ok index.toUInt64.toNat

theorem beq_self_of_infinite {negative : Bool} (h : Binary64.ofFloat index = .infinite negative) :
    index == index := by
  change (index.toModel.unpack.compare index.toModel.unpack == some .eq) = true
  rw [unpack_of_infinite h]
  cases negative <;> rfl

theorem le_of_infinite {x : Float} {q : ℚ} (hx : exactly? x = some q)
    (h : Binary64.ofFloat index = .infinite false) : x ≤ index := by
  change decide ((x.toModel.unpack.compare index.toModel.unpack).any Ordering.isLE = true) = true
  rw [unpack_of_infinite h]
  unfold exactly? at hx
  generalize x.toModel.unpack = u at hx
  cases u with
  | notANumber | infinity s => contradiction
  | zero s | finite s m e pos => rfl

theorem beq_truncated_iff {negative : Bool} {steps : Nat}
    (h : Binary64.ofFloat index = .finite negative steps) :
    index == truncated index ↔ steps % one = 0 := by
  rw [beq_iff (exactly?_of_finite h) (exactly?_of_finite (ofFloat_truncated h))]
  have pos := Number.one_pos
  generalize one = unit at pos
  have ne : (unit : ℚ) ≠ 0 := Nat.cast_ne_zero.mpr pos.ne'
  have whole : steps = steps / unit * unit ↔ steps % unit = 0 :=
    (eq_mul_iff pos).trans (and_iff_left rfl)
  generalize steps / unit * unit = rest at whole ⊢
  rw [div_left_inj' ne, Int.cast_inj, ← whole]
  cases negative <;> simp

theorem tests_iff :
    (index.isNaN || index < 0 || index != truncated index) = true ↔ IsInvalid index := by
  rw [IsInvalid, Bool.or_eq_true, Bool.or_eq_true, decide_eq_true_eq, or_assoc]
  cases h : Binary64.ofFloat index with
  | nan => exact iff_of_true (.inl (isNaN_iff.mpr h)) (.inl (isNaN_iff.mpr h))
  | infinite negative =>
    have same : truncated index = index := by rw [truncated, h]
    rw [same, bne, beq_self_of_infinite h, exactly?_of_infinite h]
    simp
  | finite negative steps =>
    rw [has_fraction_iff h, Ne, ← beq_truncated_iff h, bne, Bool.not_eq_true', Bool.not_eq_true]

theorem exactly?_ofRatio (le : size ≤ 2 ^ 53) :
    exactly? (ofRatio false size 1) = some (size : ℚ) := by
  rw [exactly?_of_finite (ofFloat_ofRatio_of_le false le)]
  have ne : (one : ℚ) ≠ 0 := Nat.cast_ne_zero.mpr Number.one_pos.ne'
  generalize one = unit at ne
  rw [Option.some.injEq, div_eq_iff ne]
  push_cast
  rfl

/-- **Testing the double decides the same as the exact check**, for sizes that are doubles. -/
theorem checkIndex_eq_tested (le : size ≤ 2 ^ 53) :
    checkIndex name index size = tested name index size := by
  unfold tested
  split
  case isTrue invalid =>
    exact checkIndex_eq_error_iff.mpr (.inl ⟨tests_iff.mp invalid, rfl⟩)
  case isFalse valid =>
    have double := exactly?_ofRatio le
    rcases infinite_or_natural (mt tests_iff.mpr valid) with infinite | ⟨n, number⟩
    · rw [if_pos (le_of_infinite double infinite)]
      refine checkIndex_eq_error_iff.mpr (.inr ⟨.inl ⟨?_, ?_⟩, rfl⟩)
      · exact isInf_iff.mpr ⟨false, infinite⟩
      · exact (zero_lt_of_infinite infinite).mpr Bool.false_ne_true
    · have compared : ofRatio false size 1 ≤ index ↔ size ≤ n := by
        rw [le_iff double number, Nat.cast_le]
      split
      case isTrue beyond =>
        exact checkIndex_eq_error_iff.mpr (.inr ⟨.inr ⟨n, number, compared.mp beyond⟩, rfl⟩)
      case isFalse below =>
        have lt : n < size := Nat.lt_of_not_le (mt compared.mpr below)
        rw [toUInt64_of_exactly number (by omega)]
        exact checkIndex_eq_ok_iff.mpr ⟨standsFor_iff.mpr number, lt⟩

/-! ## 4. Elements -/

/-- An accepted index reads and writes an element that exists. -/
theorem Store.access_in_range (s : Store) (value : Float) {i : Nat}
    (accepted : checkIndex name index (s.cells name s.arraySize).size = .ok i) :
    ∃ lt : i < (s.cells name s.arraySize).size,
      (s.element name index).2 = .ok (s.cells name s.arraySize)[i]
        ∧ (s.setElement name index value).1.array? name
          = some ((s.cells name s.arraySize).set i value lt) := by
  have lt := (checkIndex_eq_ok_iff.mp accepted).2
  refine ⟨lt, ?_, ?_⟩
  · simp only [element_eq, accepted, Except.map, Array.getElem?_eq_getElem lt, Option.getD_some]
  · rw [setElement_of_ok accepted, Array.setIfInBounds, dif_pos lt]
    exact (find?_insert_string _ _ _ _).trans (if_pos rfl)

/-- **The check of an index is exact on all doubles.**  It gives a position iff the index is that
natural number and lies inside the array; it fails iff the index is invalid or beyond the end, and
says which; it comes to the same as testing the double; and the element at the position exists. -/
theorem checkIndex_exact (name : String) (index : Float) (size : Nat) :
    (∀ i, checkIndex name index size = .ok i ↔ exactly? index = some (i : ℚ) ∧ i < size)
    ∧ (∀ e, checkIndex name index size = .error e
        ↔ IsInvalid index ∧ e = .invalidIndex name index
          ∨ IsBeyond index size ∧ e = .outOfBounds name index size)
    ∧ (size ≤ 2 ^ 53 → checkIndex name index size = tested name index size)
    ∧ ∀ (s : Store) (value : Float) (i : Nat),
        checkIndex name index (s.cells name s.arraySize).size = .ok i →
        ∃ lt : i < (s.cells name s.arraySize).size,
          (s.element name index).2 = .ok (s.cells name s.arraySize)[i]
            ∧ (s.setElement name index value).1.array? name
              = some ((s.cells name s.arraySize).set i value lt) := by
  refine ⟨?_, ?_, checkIndex_eq_tested, ?_⟩
  · intro i
    rw [checkIndex_eq_ok_iff, standsFor_iff]
  · intro e
    exact checkIndex_eq_error_iff
  · intro s value i
    exact s.access_in_range value

theorem checkIndex_exact_negative_zero :
    (10 ≤ 2 ^ 53 ∧ checkIndex "A" (-0.0) 10 = tested "A" (-0.0) 10)
    ∧ ∃ lt : 0 < ((Store.empty 10).cells "A" 10).size,
        ((Store.empty 10).element "A" (-0.0)).2 = .ok ((Store.empty 10).cells "A" 10)[0]
          ∧ ((Store.empty 10).setElement "A" (-0.0) 1).1.array? "A"
            = some (((Store.empty 10).cells "A" 10).set 0 1 lt) :=
  ⟨⟨by decide, (checkIndex_exact "A" (-0.0) 10).2.2.1 (by decide)⟩,
    (checkIndex_exact "A" (-0.0) 10).2.2.2 (Store.empty 10) 1 0
      (checkIndex_eq_ok_iff.mpr ⟨by decide +kernel, by decide +kernel⟩)⟩

end LineBasic
