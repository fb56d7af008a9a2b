/-
# Bytes as characters

Which characters a byte sequence stands for is said here without the ranges of bytes that the
decoder looks at (`Decodes`).  Where the encoding of a character begins, that character is read;
where none does, one byte is passed over and a replacement is read.  **The decoder does just that**
(`decodes_decode`).

For one character there are two directions.  The bytes of an encoding meet the conditions of the
decoder (`character_of_encode`), and bytes that meet them are an encoding
(`exists_encoding_of_character`).  Both are arithmetic on the payload of each byte, once bytes are
taken as the numbers they are.

A byte below `0x80` is a character by itself and belongs to no other, so **bytes can be decoded in
parts wherever one stands** (`decode_append_ascii`).
-/
import Mathlib
import LineBasic.Text.Utf8

namespace LineBasic.Text.Utf8

open String (utf8EncodeChar)

/-! ## 1. What bytes stand for -/

/-- The bytes stand for the characters: each is there with its encoding, or it is the replacement
for a byte at which no encoding begins. -/
inductive Decodes : List UInt8 → List Char → Prop
  | nil : Decodes [] []
  | character (c : Char) {rest : List UInt8} {cs : List Char} (h : Decodes rest cs) :
      Decodes (utf8EncodeChar c ++ rest) (c :: cs)
  | invalid {b : UInt8} {rest : List UInt8} {cs : List Char}
      (none : ∀ c, ¬ utf8EncodeChar c <+: b :: rest) (h : Decodes rest cs) :
      Decodes (b :: rest) (replacement :: cs)

/-! ## 2. Bytes as numbers -/

theorem isTail_iff {b : UInt8} : isTail b ↔ 0x80 ≤ b.toNat ∧ b.toNat ≤ 0xBF := by
  simp [isTail, UInt8.le_iff_toNat_le]

theorem isSecond_iff {a b : UInt8} :
    isSecond a b ↔ (0x80 ≤ b.toNat ∧ b.toNat ≤ 0xBF) ∧ (a.toNat = 0xE0 → 0xA0 ≤ b.toNat)
      ∧ (a.toNat = 0xED → b.toNat ≤ 0x9F) ∧ (a.toNat = 0xF0 → 0x90 ≤ b.toNat)
      ∧ (a.toNat = 0xF4 → b.toNat ≤ 0x8F) := by
  unfold isSecond
  simp only [← UInt8.toNat_inj, UInt8.toNat_ofNat]
  split_ifs <;> simp [isTail_iff, UInt8.le_iff_toNat_le] <;> omega

theorem ofNat_eq {a : UInt8} {n : Nat} (h : n = a.toNat) : UInt8.ofNat n = a := by
  rw [h, UInt8.ofNat_toNat]

theorem toNat_ofNat_of_lt {n : Nat} (h : n < 256) : (UInt8.ofNat n).toNat = n := by
  rw [UInt8.toNat_ofNat', Nat.mod_eq_of_lt h]

theorem toNat_char {n : Nat} (h : n.isValidChar) : (Char.ofNat n).val.toNat = n := by
  show (Char.ofNat n).toNat = n
  rw [Char.toNat_ofNat, if_pos h]

/-! ## 3. What is read is there -/

theorem encode_one {a : UInt8} (h : a.toNat < 0x80) :
    utf8EncodeChar (Char.ofNat a.toNat) = [a] := by
  rw [utf8EncodeChar, toNat_char (.inl (by omega)), if_pos (by omega), UInt8.ofNat_toNat]

theorem upToTwo_cases (a b : UInt8) :
    upToTwo a b = (replacement, 0) ∨ ∃ ch, utf8EncodeChar ch = [a, b] := by
  unfold upToTwo
  split_ifs with h
  · right
    simp only [Bool.and_eq_true, decide_eq_true_eq, isTail_iff, UInt8.le_iff_toNat_le,
      UInt8.toNat_ofNat] at h
    refine ⟨Char.ofNat (a.toNat % 0x20 * 0x40 + tailBits b), ?_⟩
    unfold tailBits
    rw [utf8EncodeChar, toNat_char (.inl (by omega)), if_neg (by omega), if_pos (by omega),
      ofNat_eq (a := a) (by omega), ofNat_eq (a := b) (by omega)]
  · exact .inl rfl

theorem upToThree_cases (a b c : UInt8) :
    upToThree a b c = upToTwo a b ∨ ∃ ch, utf8EncodeChar ch = [a, b, c] := by
  unfold upToThree
  split_ifs with h
  · right
    simp only [Bool.and_eq_true, decide_eq_true_eq, isTail_iff, isSecond_iff, UInt8.le_iff_toNat_le,
      UInt8.toNat_ofNat] at h
    refine ⟨Char.ofNat ((a.toNat % 0x10 * 0x40 + tailBits b) * 0x40 + tailBits c), ?_⟩
    unfold tailBits
    have valid :
        ((a.toNat % 0x10 * 0x40 + b.toNat % 0x40) * 0x40 + c.toNat % 0x40).isValidChar := by
      unfold Nat.isValidChar
      omega
    rw [utf8EncodeChar, toNat_char valid, if_neg (by omega), if_neg (by omega), if_pos (by omega),
      ofNat_eq (a := a) (by omega), ofNat_eq (a := b) (by omega), ofNat_eq (a := c) (by omega)]
  · exact .inl rfl

theorem upToFour_cases (a b c d : UInt8) :
    upToFour a b c d = upToThree a b c ∨ ∃ ch, utf8EncodeChar ch = [a, b, c, d] := by
  unfold upToFour
  split_ifs with h
  · right
    simp only [Bool.and_eq_true, decide_eq_true_eq, isTail_iff, isSecond_iff, UInt8.le_iff_toNat_le,
      UInt8.toNat_ofNat] at h
    refine ⟨Char.ofNat (((a.toNat % 0x08 * 0x40 + tailBits b) * 0x40 + tailBits c) * 0x40
      + tailBits d), ?_⟩
    unfold tailBits
    have valid : (((a.toNat % 0x08 * 0x40 + b.toNat % 0x40) * 0x40 + c.toNat % 0x40) * 0x40
        + d.toNat % 0x40).isValidChar := by
      unfold Nat.isValidChar
      omega
    rw [utf8EncodeChar, toNat_char valid, if_neg (by omega), if_neg (by omega), if_neg (by omega),
      ofNat_eq (a := a) (by omega), ofNat_eq (a := b) (by omega), ofNat_eq (a := c) (by omega),
      ofNat_eq (a := d) (by omega)]
  · exact .inl rfl

/-- **Bytes that the decoder accepts are an encoding.** -/
theorem exists_encoding_of_character (a : UInt8) (rest : List UInt8) :
    character a rest = (replacement, 0) ∨ ∃ c, utf8EncodeChar c <+: a :: rest := by
  unfold character
  split_ifs with ascii
  · exact .inr ⟨_, rest, congrArg (· ++ rest) (encode_one (UInt8.lt_iff_toNat_lt.mp ascii))⟩
  have two : ∀ b rest,
      upToTwo a b = (replacement, 0) ∨ ∃ c, utf8EncodeChar c <+: a :: b :: rest := by
    intro b rest
    rcases upToTwo_cases a b with none | ⟨ch, encoded⟩
    · exact .inl none
    · exact .inr ⟨ch, rest, congrArg (· ++ rest) encoded⟩
  have three : ∀ b c rest, upToThree a b c = (replacement, 0)
      ∨ ∃ ch, utf8EncodeChar ch <+: a :: b :: c :: rest := by
    intro b c rest
    rcases upToThree_cases a b c with shorter | ⟨ch, encoded⟩
    · rw [shorter]
      exact two b (c :: rest)
    · exact .inr ⟨ch, rest, congrArg (· ++ rest) encoded⟩
  split
  · rename_i b c d rest
    rcases upToFour_cases a b c d with shorter | ⟨ch, encoded⟩
    · rw [shorter]
      exact three b c (d :: rest)
    · exact .inr ⟨ch, rest, congrArg (· ++ rest) encoded⟩
  · exact three _ _ []
  · exact two _ []
  · exact .inl rfl

/-! ## 4. What is there is read -/

section

variable {a b c d : UInt8}

theorem upToThree_of_lt (h : a.toNat < 0xE0) : upToThree a b c = upToTwo a b := by
  have low : ¬ (0xE0 : UInt8) ≤ a := by
    simp only [UInt8.le_iff_toNat_le, UInt8.toNat_ofNat]
    omega
  simp [upToThree, low]

theorem upToFour_of_lt (h : a.toNat < 0xF0) : upToFour a b c d = upToThree a b c := by
  have low : ¬ (0xF0 : UInt8) ≤ a := by
    simp only [UInt8.le_iff_toNat_le, UInt8.toNat_ofNat]
    omega
  simp [upToFour, low]

variable (rest : List UInt8)

theorem not_ascii (h : 0x80 ≤ a.toNat) : ¬ a < 0x80 := by
  simp only [UInt8.lt_iff_toNat_lt, UInt8.toNat_ofNat]
  omega

theorem character_four (h : 0x80 ≤ a.toNat) :
    character a (b :: c :: d :: rest) = upToFour a b c d := by
  rw [character, if_neg (not_ascii h)]

theorem character_three (h : 0x80 ≤ a.toNat) (h' : a.toNat < 0xF0) :
    character a (b :: c :: rest) = upToThree a b c := by
  cases rest with
  | nil => rw [character, if_neg (not_ascii h)]
  | cons d rest => rw [character_four rest h, upToFour_of_lt h']

theorem character_two (h : 0x80 ≤ a.toNat) (h' : a.toNat < 0xE0) :
    character a (b :: rest) = upToTwo a b := by
  cases rest with
  | nil => rw [character, if_neg (not_ascii h)]
  | cons c rest => rw [character_three rest h (by omega), upToThree_of_lt h']

end

section

variable {n : Nat}

theorem upToTwo_encoding (low : 0x7F < n) (high : n ≤ 0x7FF) :
    upToTwo (.ofNat (n / 64 % 32 + 192)) (.ofNat (n % 64 + 128)) = (Char.ofNat n, 1) := by
  have ha := toNat_ofNat_of_lt (n := n / 64 % 32 + 192) (by omega)
  have hb := toNat_ofNat_of_lt (n := n % 64 + 128) (by omega)
  have payload : (n / 64 % 32 + 192) % 0x20 * 0x40 + (n % 64 + 128) % 0x40 = n := by omega
  rw [upToTwo, if_pos, tailBits, ha, hb, payload]
  simp only [Bool.and_eq_true, decide_eq_true_eq, isTail_iff, UInt8.le_iff_toNat_le,
    UInt8.toNat_ofNat, ha, hb]
  omega

theorem upToThree_encoding (low : 0x7FF < n) (high : n ≤ 0xFFFF) (valid : n.isValidChar) :
    upToThree (.ofNat (n / 4096 % 16 + 224)) (.ofNat (n / 64 % 64 + 128)) (.ofNat (n % 64 + 128))
      = (Char.ofNat n, 2) := by
  have ha := toNat_ofNat_of_lt (n := n / 4096 % 16 + 224) (by omega)
  have hb := toNat_ofNat_of_lt (n := n / 64 % 64 + 128) (by omega)
  have hc := toNat_ofNat_of_lt (n := n % 64 + 128) (by omega)
  have payload : ((n / 4096 % 16 + 224) % 0x10 * 0x40 + (n / 64 % 64 + 128) % 0x40) * 0x40
      + (n % 64 + 128) % 0x40 = n := by omega
  rw [upToThree, if_pos, tailBits, tailBits, ha, hb, hc, payload]
  simp only [Bool.and_eq_true, decide_eq_true_eq, isTail_iff, isSecond_iff, UInt8.le_iff_toNat_le,
    UInt8.toNat_ofNat, ha, hb, hc]
  unfold Nat.isValidChar at valid
  omega

theorem upToFour_encoding (low : 0xFFFF < n) (valid : n.isValidChar) :
    upToFour (.ofNat (n / 262144 % 8 + 240)) (.ofNat (n / 4096 % 64 + 128))
        (.ofNat (n / 64 % 64 + 128)) (.ofNat (n % 64 + 128)) = (Char.ofNat n, 3) := by
  have ha := toNat_ofNat_of_lt (n := n / 262144 % 8 + 240) (by omega)
  have hb := toNat_ofNat_of_lt (n := n / 4096 % 64 + 128) (by omega)
  have hc := toNat_ofNat_of_lt (n := n / 64 % 64 + 128) (by omega)
  have hd := toNat_ofNat_of_lt (n := n % 64 + 128) (by omega)
  unfold Nat.isValidChar at valid
  have payload : (((n / 262144 % 8 + 240) % 0x08 * 0x40 + (n / 4096 % 64 + 128) % 0x40) * 0x40
      + (n / 64 % 64 + 128) % 0x40) * 0x40 + (n % 64 + 128) % 0x40 = n := by omega
  rw [upToFour, if_pos, tailBits, tailBits, tailBits, ha, hb, hc, hd, payload]
  simp only [Bool.and_eq_true, decide_eq_true_eq, isTail_iff, isSecond_iff, UInt8.le_iff_toNat_le,
    UInt8.toNat_ofNat, ha, hb, hc, hd]
  omega

end

/-- **An encoding is read as its character**, whatever follows. -/
theorem character_of_encode {c : Char} {a : UInt8} {tail : List UInt8}
    (h : utf8EncodeChar c = a :: tail) (rest : List UInt8) :
    character a (tail ++ rest) = (c, tail.length) := by
  have value : Char.ofNat c.val.toNat = c := Char.ofNat_toNat c
  have valid : c.val.toNat.isValidChar := c.valid
  rw [utf8EncodeChar] at h
  generalize c.val.toNat = n at h value valid
  rw [← value]
  split_ifs at h with one two three
  · obtain ⟨rfl, rfl⟩ := List.cons.inj h
    have ha := toNat_ofNat_of_lt (n := n) (by omega)
    have ascii : UInt8.ofNat n < 0x80 := by
      simp only [UInt8.lt_iff_toNat_lt, UInt8.toNat_ofNat, ha]
      omega
    unfold character
    rw [if_pos ascii, ha]
    rfl
  · obtain ⟨rfl, rfl⟩ := List.cons.inj h
    have ha := toNat_ofNat_of_lt (n := n / 64 % 32 + 192) (by omega)
    exact (character_two rest (by omega) (by omega)).trans (upToTwo_encoding (by omega) two)
  · obtain ⟨rfl, rfl⟩ := List.cons.inj h
    have ha := toNat_ofNat_of_lt (n := n / 4096 % 16 + 224) (by omega)
    exact (character_three rest (by omega) (by omega)).trans
      (upToThree_encoding (by omega) three valid)
  · obtain ⟨rfl, rfl⟩ := List.cons.inj h
    have ha := toNat_ofNat_of_lt (n := n / 262144 % 8 + 240) (by omega)
    exact (character_four rest (by omega)).trans (upToFour_encoding (by omega) valid)

/-! ## 5. Whole sequences -/

theorem decodeFrom_eq (skip : Nat) (bytes : List UInt8) :
    decodeFrom skip bytes = decode (bytes.drop skip) := by
  induction bytes generalizing skip with
  | nil => cases skip <;> rfl
  | cons a rest ih =>
    cases skip with
    | zero => rfl
    | succ skip => exact ih skip

/-- One character is read, and reading goes on behind its bytes. -/
theorem decode_cons (a : UInt8) (rest : List UInt8) :
    decode (a :: rest) = (character a rest).1 :: decode (rest.drop (character a rest).2) := by
  rw [← decodeFrom_eq]
  rfl

/-- **Decoding is by the encodings.** -/
theorem decodes_decode (bytes : List UInt8) : Decodes bytes (decode bytes) := by
  induction hn : bytes.length using Nat.strong_induction_on generalizing bytes with
  | _ n ih =>
    cases bytes with
    | nil => exact .nil
    | cons a rest =>
      rw [decode_cons]
      by_cases some : ∃ c, utf8EncodeChar c <+: a :: rest
      · obtain ⟨c, behind, begins⟩ := some
        cases encoded : utf8EncodeChar c with
        | nil =>
          have long := String.length_utf8EncodeChar c
          rw [encoded] at long
          exact absurd long c.utf8Size_pos.ne
        | cons b tail =>
          rw [encoded, List.cons_append] at begins
          obtain ⟨rfl, rfl⟩ := List.cons.inj begins
          rw [character_of_encode encoded, List.drop_left, ← List.cons_append, ← encoded]
          refine .character c (ih _ ?_ _ rfl)
          rw [← hn, List.length_cons, List.length_append]
          omega
      · have none := (exists_encoding_of_character a rest).resolve_right some
        rw [none]
        exact .invalid (not_exists.mp some) (ih _ (by simp [← hn]) _ rfl)

/-! ## 6. Bytes that stand for themselves

A byte below `0x80` is a character and belongs to no other one. -/

section Ascii

variable {x : UInt8} (ascii : x.toNat < 0x80)

include ascii

theorem isTail_of_ascii : isTail x = false := by
  rw [← Bool.not_eq_true, isTail_iff]
  omega

theorem isSecond_of_ascii (a : UInt8) : isSecond a x = false := by
  rw [← Bool.not_eq_true, isSecond_iff]
  omega

/-- Such a byte ends whatever character is begun before it, as the end of the bytes does. -/
theorem character_append_ascii (a : UInt8) (rest more : List UInt8) :
    character a (rest ++ x :: more) = character a rest := by
  have tail := isTail_of_ascii ascii
  have second := isSecond_of_ascii ascii a
  unfold character
  split_ifs
  · rfl
  rcases rest with _ | ⟨b, _ | ⟨c, _ | ⟨d, rest⟩⟩⟩
  · rcases more with _ | ⟨y, _ | ⟨z, more⟩⟩ <;>
      simp [upToFour, upToThree, upToTwo, tail, second]
  · rcases more with _ | ⟨y, more⟩ <;> simp [upToFour, upToThree, tail]
  · simp [upToFour, tail]
  · rfl

end Ascii

theorem character_snd_le (a : UInt8) (rest : List UInt8) : (character a rest).2 ≤ rest.length := by
  unfold character upToFour upToThree upToTwo
  split_ifs
  · exact Nat.zero_le _
  split
  · split_ifs <;> simp
  · split_ifs <;> simp
  · split_ifs <;> simp
  · exact Nat.zero_le _

/-- **Decoding can be cut at a byte that stands for itself.** -/
theorem decode_append_ascii {x : UInt8} (ascii : x.toNat < 0x80) (bytes more : List UInt8) :
    decode (bytes ++ x :: more) = decode bytes ++ Char.ofNat x.toNat :: decode more := by
  induction hn : bytes.length using Nat.strong_induction_on generalizing bytes with
  | _ n ih =>
    cases bytes with
    | nil =>
      have alone : character x more = (Char.ofNat x.toNat, 0) := by
        unfold character
        rw [if_pos (UInt8.lt_iff_toNat_lt.mpr ascii)]
      rw [List.nil_append, decode_cons, alone]
      rfl
    | cons a rest =>
      have short := character_snd_le a rest
      have fewer : (rest.drop (character a rest).2).length < n := by
        rw [← hn, List.length_drop, List.length_cons]
        omega
      rw [List.cons_append, decode_cons, character_append_ascii ascii,
        List.drop_append_of_le_length short, ih _ fewer _ rfl, decode_cons, List.cons_append]

/-- A character that one byte stands for is there only with that byte. -/
theorem Decodes.notMem {x : UInt8} (ascii : x.toNat < 0x80) {bytes : List UInt8} {cs : List Char}
    (h : Decodes bytes cs) (absent : x ∉ bytes) : Char.ofNat x.toNat ∉ cs := by
  induction h with
  | nil => exact List.not_mem_nil
  | character c _ ih =>
    rw [List.mem_append, not_or] at absent
    rw [List.mem_cons, not_or]
    refine ⟨?_, ih absent.2⟩
    rintro rfl
    exact absent.1 (by simp [encode_one ascii])
  | invalid _ _ ih =>
    rw [List.mem_cons, not_or] at absent ⊢
    refine ⟨?_, ih absent.2⟩
    intro same
    have value := congrArg Char.toNat same
    rw [Char.toNat_ofNat, if_pos (.inl (by omega))] at value
    have : replacement.toNat = 0xFFFD := by decide
    omega

/-- **A byte that stands for itself is read as often as it is there.** -/
theorem count_decode {x : UInt8} (ascii : x.toNat < 0x80) (bytes : List UInt8) :
    (decode bytes).count (Char.ofNat x.toNat) = bytes.count x := by
  induction hn : bytes.length using Nat.strong_induction_on generalizing bytes with
  | _ n ih =>
    by_cases present : x ∈ bytes
    · obtain ⟨before, after, rfl, -⟩ := List.eq_append_cons_of_mem present
      rw [List.length_append, List.length_cons] at hn
      rw [decode_append_ascii ascii, List.count_append, List.count_append, List.count_cons_self,
        List.count_cons_self, ih _ (by omega) before rfl, ih _ (by omega) after rfl]
    · rw [List.count_eq_zero_of_not_mem present]
      exact List.count_eq_zero_of_not_mem ((decodes_decode bytes).notMem ascii present)

end LineBasic.Text.Utf8
