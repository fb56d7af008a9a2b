/-
# Literals as they are written

A literal is digits with at most one point among them, and perhaps an exponent.  Here its parts come
first, as numbers from 0 to 9 (`Literal`), and its text is made from them (`Literal.chars`).  Three
facts say that the text is read as it was meant.

* It is one token (`Literal.isNumeral`).
* The token is a number, with a point a float (`Literal.kindOf_text`).
* **Its value is that of the parts** (`Literal.literal?_text`).  Each part begins with a character
  that the part before it cannot hold, so the reader stops where the writer did.
-/
import LineBasic.Number.Literal
import LineBasic.Proofs.TokenLanguage
import LineBasic.Source
import Mathlib.Data.List.TakeDrop

namespace LineBasic.Number

/-! ## 1. Literals and their text -/

/-- Digits as they are written. -/
def digitChars (ds : List (Fin 10)) : List Char := ds.map fun d : Fin 10 => Nat.digitChar d.val

/-- The number that digits stand for. -/
def ofDecimalDigits (ds : List (Fin 10)) : Nat := ds.foldl (fun n d => 10 * n + d.val) 0

/-- The sign of an exponent. -/
inductive Sign where
  | plus
  | minus

def Sign.char : Sign → Char
  | plus => '+'
  | minus => '-'

/-- An exponent: a mark, perhaps a sign, and at least one digit. -/
structure Exponent where
  capital : Bool
  sign : Option Sign
  first : Fin 10
  rest : List (Fin 10)

namespace Exponent

def mark (e : Exponent) : Char := if e.capital then 'E' else 'e'

def digits (e : Exponent) : List (Fin 10) := e.first :: e.rest

/-- The exponent as it is written. -/
def chars (e : Exponent) : List Char :=
  e.mark :: (e.sign.toList.map Sign.char ++ digitChars e.digits)

/-- The power of ten that the exponent stands for. -/
def value (e : Exponent) : Int :=
  match e.sign with
  | some .minus => -(ofDecimalDigits e.digits : Int)
  | _ => ofDecimalDigits e.digits

end Exponent

/-- A literal without a sign: digits, perhaps a point and digits after it, perhaps an exponent.
There is a digit before the point or after it. -/
structure Literal where
  whole : List (Fin 10)
  fraction : Option (List (Fin 10))
  exponent : Option Exponent
  nonempty : whole ++ fraction.getD [] ≠ []

namespace Literal

/-- The point and the digits after it, as they are written. -/
def fractionChars (l : Literal) : List Char := l.fraction.elim [] fun ds => '.' :: digitChars ds

/-- The exponent, as it is written. -/
def exponentChars (l : Literal) : List Char := l.exponent.elim [] Exponent.chars

/-- The literal up to its exponent. -/
def mantissa (l : Literal) : List Char := digitChars l.whole ++ l.fractionChars

/-- The literal as it is written. -/
def chars (l : Literal) : List Char := l.mantissa ++ l.exponentChars

def text (l : Literal) : String := String.ofList l.chars

/-- A literal with a point is a float. -/
def kind (l : Literal) : Kind := if l.fraction.isSome then .float else .number

/-- The decimal that the literal stands for. -/
def decimal (l : Literal) : Decimal :=
  ⟨false, ofDecimalDigits (l.whole ++ l.fraction.getD []),
    l.exponent.elim 0 Exponent.value - (l.fraction.getD []).length⟩

/-- The value of the literal, the double nearest to its decimal. -/
def value (l : Literal) : Float := l.decimal.toFloat

end Literal

/-! ## 2. Reading the parts -/

theorem isDigit_of_mem_digitChars {ds : List (Fin 10)} {c : Char} (h : c ∈ digitChars ds) :
    c.isDigit := by
  have digit : ∀ d : Fin 10, (Nat.digitChar d.val).isDigit := by decide
  obtain ⟨d, -, rfl⟩ := List.mem_map.mp h
  exact digit d

theorem point_notMem_digitChars (ds : List (Fin 10)) : '.' ∉ digitChars ds := by
  intro h
  cases isDigit_of_mem_digitChars h

theorem ofDigits_digitChars (ds : List (Fin 10)) :
    ofDigits (digitChars ds) = ofDecimalDigits ds := by
  have digit : ∀ d : Fin 10, (Nat.digitChar d.val).toNat - '0'.toNat = d.val := by decide
  rw [ofDigits, digitChars, List.foldl_map, ofDecimalDigits]
  simp only [digit]

/-- Digits end where something else begins. -/
theorem span_digitChars (ds : List (Fin 10)) {rest : List Char}
    (h : ∀ c ∈ rest.head?, c.isDigit = false) :
    (digitChars ds ++ rest).span Char.isDigit = (digitChars ds, rest) := by
  have digits : ∀ c ∈ digitChars ds, c.isDigit := fun c hc => isDigit_of_mem_digitChars hc
  rw [List.span_eq_takeWhile_dropWhile, List.takeWhile_append_of_pos digits,
    List.dropWhile_append_of_pos digits]
  cases rest with
  | nil => simp
  | cons c rest => simp [h c rfl]

theorem takeSign_of_head {cs : List Char} (h : ∀ c ∈ cs.head?, Token.isSign c = false) :
    takeSign cs = (false, cs) := by
  unfold takeSign
  split
  · cases h '+' rfl
  · cases h '-' rfl
  · rfl

theorem isSign_of_opensNumeral {c : Char} (h : Token.opensNumeral c) : Token.isSign c = false := by
  rw [Token.isSign, Bool.or_eq_false_iff, decide_eq_false_iff_not, decide_eq_false_iff_not]
  constructor <;> rintro rfl <;> cases h

/-- A numeral does not begin with a sign. -/
theorem isSign_of_head {cs : List Char} (h : Token.IsNumeral cs) {c : Char} (hc : c ∈ cs.head?) :
    Token.isSign c = false :=
  isSign_of_opensNumeral (h.opensNumeral_of_head hc)

theorem opensNumeral_of_mem_digitChars {ds : List (Fin 10)} {c : Char} (h : c ∈ digitChars ds) :
    Token.opensNumeral c := by
  simp [Token.opensNumeral, isDigit_of_mem_digitChars h]

theorem isDigit_of_isExponentMark {c : Char} (h : Token.isExponentMark c) : c.isDigit = false := by
  simp only [Token.isExponentMark, Bool.or_eq_true, decide_eq_true_eq] at h
  rcases h with rfl | rfl <;> rfl

theorem all_isLiteralChar_of_isNumeral {cs : List Char} (h : Token.IsNumeral cs) :
    cs.all isLiteralChar := by
  obtain ⟨first, others, -⟩ := h
  have numeral {d : Char} (hd : Token.opensNumeral d || Token.isExponentMark d || Token.isSign d) :
      isLiteralChar d := by
    simp only [Token.opensNumeral, Token.isExponentMark, Token.isSign, Bool.or_eq_true] at hd
    simp only [isLiteralChar, Bool.or_eq_true]
    tauto
  rw [List.all_cons, Bool.and_eq_true, List.all_eq_true]
  exact ⟨numeral (by simp [first]), fun d hd => numeral (others d hd)⟩

namespace Exponent

variable (e : Exponent)

theorem isExponentMark_mark : Token.isExponentMark e.mark := by
  unfold mark
  split <;> rfl

theorem exponent?_chars : exponent? e.chars = some e.value := by
  have mark : (decide (e.mark = 'E') || decide (e.mark = 'e')) = true := e.isExponentMark_mark
  have digits : (digitChars e.digits).all Char.isDigit :=
    List.all_eq_true.mpr fun c hc => isDigit_of_mem_digitChars hc
  have nonempty : (digitChars e.digits).isEmpty = false := rfl
  have unsigned : takeSign (digitChars e.digits) = (false, digitChars e.digits) := by
    refine takeSign_of_head fun c hc => ?_
    exact isSign_of_opensNumeral (opensNumeral_of_mem_digitChars (List.mem_of_mem_head? hc))
  rw [chars, exponent?, if_pos mark, value]
  rcases e.sign with _ | sign
  · simp [unsigned, digits, nonempty, ofDigits_digitChars]
  · cases sign <;> simp [Sign.char, takeSign, digits, nonempty, ofDigits_digitChars]

/-- After a numeral that has no exponent yet. -/
theorem isNumeral_append {cs : List Char} (h : Token.IsNumeral cs) :
    Token.IsNumeral (cs ++ e.chars) := by
  have digits : ∀ c ∈ digitChars e.digits, Token.opensNumeral c || Token.isExponentMark c := by
    intro c hc
    simp [opensNumeral_of_mem_digitChars hc]
  have marked : Token.IsNumeral (cs ++ [e.mark]) := h.append (by simp [e.isExponentMark_mark])
  rw [chars, List.append_cons]
  rcases e.sign with _ | sign
  · exact marked.append_of_forall digits
  · have isSign : Token.isSign sign.char := by cases sign <;> rfl
    have signed := marked.append_sign e.isExponentMark_mark isSign
    have whole := signed.append_of_forall digits
    simpa using whole

theorem point_notMem_chars : '.' ∉ e.chars := by
  have mark : '.' ≠ e.mark := by
    unfold mark
    split <;> decide
  have sign : '.' ∉ e.sign.toList.map Sign.char := by
    rcases e.sign with _ | _ | _ <;> decide
  rw [chars, List.mem_cons, List.mem_append, not_or, not_or]
  exact ⟨mark, sign, point_notMem_digitChars _⟩

end Exponent

namespace Literal

variable (l : Literal)

/-- What follows the mantissa begins with an exponent mark. -/
theorem isExponentMark_of_head {c : Char} (h : c ∈ l.exponentChars.head?) :
    Token.isExponentMark c := by
  revert h
  unfold exponentChars
  rcases l.exponent with _ | e
  · intro h
    cases h
  · intro h
    cases h
    exact e.isExponentMark_mark

theorem opensNumeral_of_mem_mantissa {c : Char} (h : c ∈ l.mantissa) : Token.opensNumeral c := by
  rcases List.mem_append.mp h with h | h
  · exact opensNumeral_of_mem_digitChars h
  · revert h
    unfold fractionChars
    rcases l.fraction with _ | ds
    · intro h
      cases h
    · intro h
      rcases List.mem_cons.mp h with rfl | h
      · rfl
      · exact opensNumeral_of_mem_digitChars h

/-- There is a digit in the mantissa. -/
theorem exists_digit : ∃ c ∈ l.mantissa, c.isDigit := by
  obtain ⟨d, hd⟩ := List.exists_mem_of_ne_nil _ l.nonempty
  have written {ds : List (Fin 10)} (h : d ∈ ds) : Nat.digitChar d.val ∈ digitChars ds :=
    List.mem_map_of_mem h
  have digit := isDigit_of_mem_digitChars (written (List.mem_singleton_self d))
  refine ⟨Nat.digitChar d.val, List.mem_append.mpr ?_, digit⟩
  rcases List.mem_append.mp hd with hd | hd
  · exact .inl (written hd)
  · revert hd
    unfold fractionChars
    rcases l.fraction with _ | ds
    · intro hd
      cases hd
    · intro hd
      exact .inr (List.mem_cons_of_mem _ (written hd))

/-! ## 3. Reading the whole -/

/-- The reader takes the digits before the point. -/
theorem span_chars :
    l.chars.span Char.isDigit = (digitChars l.whole, l.fractionChars ++ l.exponentChars) := by
  rw [chars, mantissa, List.append_assoc]
  refine span_digitChars l.whole ?_
  unfold fractionChars
  rcases l.fraction with _ | ds
  · intro c hc
    exact isDigit_of_isExponentMark (l.isExponentMark_of_head hc)
  · intro c hc
    cases hc
    rfl

/-- Then the point and the digits after it. -/
theorem takeFraction_chars :
    takeFraction (l.fractionChars ++ l.exponentChars)
      = (digitChars (l.fraction.getD []), l.exponentChars) := by
  unfold fractionChars
  rcases l.fraction with _ | ds
  · rw [Option.elim_none, List.nil_append]
    unfold takeFraction
    split
    · rename_i rest h
      have mark : Token.isExponentMark '.' := l.isExponentMark_of_head (by rw [h]; rfl)
      cases mark
    · rfl
  · exact span_digitChars ds fun c hc => isDigit_of_isExponentMark (l.isExponentMark_of_head hc)

/-- Then the exponent. -/
theorem exponent?_exponentChars :
    exponent? l.exponentChars = some (l.exponent.elim 0 Exponent.value) := by
  unfold exponentChars
  rcases l.exponent with _ | e
  · rfl
  · exact e.exponent?_chars

theorem isNumeral : Token.IsNumeral l.chars := by
  obtain ⟨c, hc, -⟩ := l.exists_digit
  have mantissa : Token.IsNumeral l.mantissa :=
    Token.isNumeral_of_forall (List.ne_nil_of_mem hc) fun _ h => l.opensNumeral_of_mem_mantissa h
  rw [chars, exponentChars]
  rcases l.exponent with _ | e
  · rwa [Option.elim_none, List.append_nil]
  · exact e.isNumeral_append mantissa

theorem toList_text : l.text.toList = l.chars := String.toList_ofList

theorem isToken : Token.IsToken l.text.toList := by
  rw [toList_text]
  exact .numeral l.isNumeral

theorem takeSign_chars : takeSign l.chars = (false, l.chars) :=
  takeSign_of_head fun _ hc => isSign_of_head l.isNumeral hc

theorem read?_chars : Decimal.read? l.chars = some l.decimal := by
  have nonempty :
      ¬ ((digitChars l.whole).isEmpty && (digitChars (l.fraction.getD [])).isEmpty) := by
    have := l.nonempty
    simpa [digitChars] using this
  have joined : digitChars l.whole ++ digitChars (l.fraction.getD [])
      = digitChars (l.whole ++ l.fraction.getD []) := List.map_append.symm
  simp only [Decimal.read?, l.takeSign_chars, l.span_chars, l.takeFraction_chars,
    l.exponent?_exponentChars]
  rw [if_neg nonempty, joined, ofDigits_digitChars]
  simp [decimal, digitChars]

/-- **The value of a literal is that of its parts.** -/
theorem literal?_text : literal? l.text = some l.value := by
  have plain : l.chars.all isLiteralChar := all_isLiteralChar_of_isNumeral l.isNumeral
  rw [literal?, toList_text, if_pos plain, l.read?_chars]
  rfl

theorem point_mem_chars : '.' ∈ l.chars ↔ l.fraction.isSome := by
  have exponent : '.' ∉ l.exponentChars := by
    unfold exponentChars
    rcases l.exponent with _ | e
    · simp
    · exact e.point_notMem_chars
  simp only [chars, mantissa, List.mem_append, point_notMem_digitChars, exponent, false_or,
    or_false]
  unfold fractionChars
  rcases l.fraction with _ | ds
  · simp
  · simp

theorem kindOf_text : Source.kindOf false l.text = l.kind := by
  have unquoted : Source.isStringLiteral l.text = false := by
    have quote : l.chars.head? ≠ some '"' := fun h => by
      cases l.isNumeral.opensNumeral_of_head h
    simp [Source.isStringLiteral, toList_text, quote]
  have digit : l.chars.any Text.isDigit := by
    obtain ⟨c, hc, isDigit⟩ := l.exists_digit
    exact List.any_eq_true.mpr ⟨c, List.mem_append_left _ hc, Text.isDigit_of_isDigit isDigit⟩
  simp [Source.kindOf, unquoted, toList_text, digit, l.point_mem_chars, kind]

end Literal

end LineBasic.Number
