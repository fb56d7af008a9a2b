/-
# Numerals that are numbers

A scan and a reader of literals decide about numbers, each by its own rules.  A scan takes in
digits, points, exponent marks and signs after a mark, in any number, and a token with a digit
anywhere in it is classified as a number.  The reader wants a literal, and allows a sign in front of
it.  **On tokens the two agree about what is a number** (`numerals_agree`).

* The reader accepts a literal with or without a sign, and nothing else (`isSome_literal?_iff`).
  What it has accepted is put together again from the parts that it took off one by one.
* No token is a sign and a literal (`not_opensNumeral_of_sign`).  A token that begins with a sign is
  that sign alone, or goes on with a letter.
-/
import LineBasic.Proofs.WrittenExpressions

namespace LineBasic

open Source (classify readExpression)

/-! ## 1. What the reader accepts -/

namespace Number

theorem exists_digitChar {c : Char} (h : c.isDigit) : ∃ d : Fin 10, Nat.digitChar d.val = c := by
  have digit : ∀ d : Fin 10, Nat.digitChar d.val = Char.ofNat (48 + d.val) := by decide
  have bounds : 48 ≤ c.toNat ∧ c.toNat ≤ 57 := by
    simpa [Char.isDigit, UInt32.le_iff_toNat_le] using h
  refine ⟨⟨c.toNat - 48, by omega⟩, ?_⟩
  have same : 48 + (c.toNat - 48) = c.toNat := by omega
  rw [digit, same, Char.ofNat_toNat]

/-- Characters that are digits are digits as they are written. -/
theorem exists_digitChars {cs : List Char} (h : ∀ c ∈ cs, c.isDigit) :
    ∃ ds, digitChars ds = cs := by
  induction cs with
  | nil => exact ⟨[], rfl⟩
  | cons c cs ih =>
    obtain ⟨d, hd⟩ := exists_digitChar (h c List.mem_cons_self)
    obtain ⟨ds, hds⟩ := ih fun e he => h e (List.mem_cons_of_mem c he)
    exact ⟨d :: ds, by rw [← hd, ← hds]; rfl⟩

/-- The digits that stand first, and the rest. -/
theorem exists_span (cs : List Char) :
    ∃ ds, (cs.span Char.isDigit).1 = digitChars ds
      ∧ cs = digitChars ds ++ (cs.span Char.isDigit).2 := by
  rw [List.span_eq_takeWhile_dropWhile]
  obtain ⟨ds, hds⟩ := exists_digitChars fun c (hc : c ∈ cs.takeWhile Char.isDigit) =>
    List.mem_takeWhile_imp hc
  exact ⟨ds, hds.symm, by rw [hds, List.takeWhile_append_dropWhile]⟩

/-- A sign that may be missing, as it is written. -/
def signChars (sign : Option Sign) : List Char := sign.toList.map Sign.char

theorem exists_takeSign (cs : List Char) : ∃ sign, cs = signChars sign ++ (takeSign cs).2 := by
  unfold takeSign
  split
  · exact ⟨some .plus, rfl⟩
  · exact ⟨some .minus, rfl⟩
  · exact ⟨none, rfl⟩

theorem exists_takeFraction (cs : List Char) :
    ∃ fraction : Option (List (Fin 10)), (takeFraction cs).1 = digitChars (fraction.getD [])
      ∧ cs = fraction.elim [] (fun ds => '.' :: digitChars ds) ++ (takeFraction cs).2 := by
  unfold takeFraction
  split
  · rename_i rest
    obtain ⟨ds, taken, whole⟩ := exists_span rest
    exact ⟨some ds, taken, congrArg ('.' :: ·) whole⟩
  · exact ⟨none, rfl, rfl⟩

theorem exists_mark {c : Char} (h : Token.isExponentMark c) :
    ∃ capital : Bool, (if capital then 'E' else 'e') = c := by
  simp only [Token.isExponentMark, Bool.or_eq_true, decide_eq_true_eq] at h
  rcases h with rfl | rfl
  · exact ⟨true, rfl⟩
  · exact ⟨false, rfl⟩

theorem exists_exponent {cs : List Char} (h : (exponent? cs).isSome) :
    ∃ e : Option Exponent, cs = e.elim [] Exponent.chars := by
  cases cs with
  | nil => exact ⟨none, rfl⟩
  | cons mark rest =>
    obtain ⟨sign, signed⟩ := exists_takeSign rest
    simp only [exponent?] at h
    split at h
    · rename_i hmark
      split at h
      · cases h
      · rename_i hdigits
        simp only [Bool.or_eq_true, List.isEmpty_iff, Bool.not_eq_true', not_or, Bool.not_eq_false,
          List.all_eq_true] at hdigits
        obtain ⟨_ | ⟨d, ds⟩, written⟩ := exists_digitChars hdigits.2
        · exact absurd written.symm hdigits.1
        · obtain ⟨capital, same⟩ := exists_mark hmark
          refine ⟨some ⟨capital, sign, d, ds⟩, ?_⟩
          rw [Option.elim_some, Exponent.chars, Exponent.mark, same, signed, ← written]
          rfl
    · cases h

/-- **What the reader accepts is a literal**, perhaps with a sign in front. -/
theorem exists_of_read? {cs : List Char} (h : (Decimal.read? cs).isSome) :
    ∃ (sign : Option Sign) (l : Literal), cs = signChars sign ++ l.chars := by
  obtain ⟨sign, signed⟩ := exists_takeSign cs
  obtain ⟨whole, hwhole, wholeRest⟩ := exists_span (takeSign cs).2
  obtain ⟨fraction, hfraction, fractionRest⟩ :=
    exists_takeFraction ((takeSign cs).2.span Char.isDigit).2
  simp only [Decimal.read?, hwhole, hfraction] at h
  split_ifs at h with nothing
  · cases h
  · rw [Option.isSome_map] at h
    obtain ⟨exponent, exponentRest⟩ := exists_exponent h
    have nonempty : whole ++ fraction.getD [] ≠ [] := by simpa [digitChars] using nothing
    refine ⟨sign, ⟨whole, fraction, exponent, nonempty⟩, ?_⟩
    calc cs = signChars sign ++ (takeSign cs).2 := signed
      _ = signChars sign ++ (digitChars whole ++ (fraction.elim [] (fun ds => '.' :: digitChars ds)
            ++ exponent.elim [] Exponent.chars)) := by
          rw [← exponentRest, ← fractionRest, ← wholeRest]
      _ = _ := by
        simp [Literal.chars, Literal.mantissa, Literal.fractionChars, Literal.exponentChars]

/-- Whether a text is accepted does not depend on its sign. -/
theorem isSome_read?_congr {cs ds : List Char} (h : (takeSign cs).2 = (takeSign ds).2) :
    (Decimal.read? cs).isSome = (Decimal.read? ds).isSome := by
  simp only [Decimal.read?, h]
  split_ifs <;> simp

theorem isSome_read?_sign (sign : Option Sign) (l : Literal) :
    (Decimal.read? (signChars sign ++ l.chars)).isSome := by
  have unsigned : (takeSign (signChars sign ++ l.chars)).2 = (takeSign l.chars).2 := by
    rw [l.takeSign_chars]
    rcases sign with _ | _ | _
    · exact congrArg Prod.snd l.takeSign_chars
    · rfl
    · rfl
  rw [isSome_read?_congr unsigned, l.read?_chars]
  rfl

/-- **The reader accepts exactly the literals with or without a sign.** -/
theorem isSome_literal?_iff {t : String} :
    (literal? t).isSome
      ↔ ∃ (sign : Option Sign) (l : Literal), t.toList = signChars sign ++ l.chars := by
  unfold literal?
  constructor
  · intro h
    split_ifs at h
    · rw [Option.isSome_map] at h
      exact exists_of_read? h
    · cases h
  · rintro ⟨sign, l, spelled⟩
    have sign_plain : (signChars sign).all isLiteralChar := by rcases sign with _ | _ | _ <;> rfl
    have plain : t.toList.all isLiteralChar := by
      rw [spelled, List.all_append, sign_plain, all_isLiteralChar_of_isNumeral l.isNumeral]
      rfl
    rw [if_pos plain, Option.isSome_map, spelled]
    exact isSome_read?_sign sign l

end Number

/-! ## 2. Tokens that begin with a sign -/

namespace Token

/-- A sign in front of a word is followed by its first letter. -/
theorem IsStem.isAlpha_of_sign {cs behind rest : List Char} {sign c : Char} (h : IsStem cs)
    (hsign : isSign sign) (spelled : cs ++ behind = sign :: c :: rest) : c.isAlpha := by
  obtain ⟨hlead, hc, -⟩ := h
  cases hlead with
  | nothing =>
    obtain ⟨rfl, -⟩ := List.cons_eq_cons.mp spelled
    exact absurd hc (not_isAlpha_of_isSign hsign)
  | symbol =>
    cases spelled
    exact hc
  | numeral hcs =>
    obtain ⟨first, -, -⟩ := hcs
    obtain ⟨rfl, -⟩ := List.cons_eq_cons.mp spelled
    rw [Number.isSign_of_opensNumeral first] at hsign
    cases hsign

/-- **A token does not begin with a sign and a number.** -/
theorem not_opensNumeral_of_sign {cs rest : List Char} {sign c : Char}
    (h : IsToken cs ∨ IsOpenLiteral cs)
    (hsign : isSign sign) (spelled : cs = sign :: c :: rest) : ¬ opensNumeral c := by
  have of_isAlpha (alpha : c.isAlpha) : ¬ opensNumeral c :=
    fun opens => not_isAlpha_of_opensNumeral opens alpha
  rcases h with token | unclosed
  · cases token with
    | newline => cases spelled
    | literal =>
      obtain ⟨rfl, -⟩ := List.cons_eq_cons.mp spelled
      cases hsign
    | symbol => cases spelled
    | numeral hcs =>
      rw [Number.isSign_of_head hcs (by rw [spelled]; rfl)] at hsign
      cases hsign
    | word hcs => exact of_isAlpha (hcs.isAlpha_of_sign hsign ((List.append_nil cs).trans spelled))
    | markedWord hcs => exact of_isAlpha (hcs.isAlpha_of_sign hsign spelled)
  · cases unclosed
    cases spelled
    cases hsign

end Token

/-! ## 3. Scan and reader -/

namespace Number

/-- A token that the reader accepts has no sign in front. -/
theorem exists_literal_of_token {t : String}
    (token : Token.IsToken t.toList ∨ Token.IsOpenLiteral t.toList)
    (accepted : (literal? t).isSome) : ∃ l : Literal, l.text = t := by
  obtain ⟨sign, l, spelled⟩ := isSome_literal?_iff.mp accepted
  rcases sign with _ | sign
  · refine ⟨l, String.toList_injective ?_⟩
    rw [l.toList_text, spelled]
    rfl
  · have isSign : Token.isSign sign.char := by cases sign <;> rfl
    cases hchars : l.chars with
    | nil => exact absurd hchars l.isNumeral.ne_nil
    | cons c rest =>
      rw [hchars] at spelled
      have opens := l.isNumeral.opensNumeral_of_head (c := c) (by rw [hchars]; rfl)
      exact absurd opens (Token.not_opensNumeral_of_sign token isSign spelled)

theorem readExpression_literal (l : Literal) :
    (readExpression l.text).value = ⟨.leaf l.kind l.text, true⟩ := by
  let tree : Expression.Tree := .atom ⟨.leaf l.kind l.text, Expression.isOperand_literal l⟩
  have nodes : tree.nodes = (Token.tokens l.text).map (classify false) := by
    rw [Token.tokens_token l.isToken, List.map_singleton, Expression.classify_literal]
    rfl
  exact tree.readExpression_of_ordered trivial nodes

/-- **The scan and the reader of literals agree on numbers.**  A literal without a sign is one token
and is read as a number, or as a float if it has a point, which has a value in every store.  The
reader accepts a sign in front of a literal, but a token that it accepts has none: it is a
literal. -/
theorem numerals_agree :
    (∀ l : Literal, Token.tokens l.text = [l.text]
      ∧ (readExpression l.text).value = ⟨.leaf l.kind l.text, true⟩
      ∧ (l.kind = .number ∨ l.kind = .float)
      ∧ ∀ s, (evaluate s (.leaf l.kind l.text)).result = .ok l.value)
    ∧ (∀ t, (literal? t).isSome
        ↔ ∃ (sign : Option Sign) (l : Literal), t.toList = signChars sign ++ l.chars)
    ∧ ∀ source, ∀ t ∈ Token.tokens source, (literal? t).isSome ↔ ∃ l : Literal, l.text = t := by
  refine ⟨fun l => ⟨Token.tokens_token l.isToken, readExpression_literal l, ?_, fun s => ?_⟩,
    fun t => isSome_literal?_iff, fun source t ht => ⟨fun accepted => ?_, ?_⟩⟩
  · unfold Literal.kind
    split_ifs
    · exact .inr rfl
    · exact .inl rfl
  · rw [Expression.evaluate_literal]
    rfl
  · exact exists_literal_of_token ((Token.isTokenList_tokens source).mem ht) accepted
  · rintro ⟨l, rfl⟩
    rw [l.literal?_text]
    rfl

/-- A literal with an exponent, one with too many points, and a word that looks like a sign and a
number. -/
theorem numerals_agree_three_tokens :
    let source := "1.5E-3 1.2.3 +E5"
    "1.5E-3" ∈ Token.tokens source ∧ "1.2.3" ∈ Token.tokens source ∧ "+E5" ∈ Token.tokens source
      ∧ (∃ l : Literal, l.text = "1.5E-3") ∧ (¬ ∃ l : Literal, l.text = "1.2.3")
      ∧ ¬ ∃ l : Literal, l.text = "+E5" := by
  intro source
  have first : "1.5E-3" ∈ Token.tokens source := by decide
  have second : "1.2.3" ∈ Token.tokens source := by decide
  have third : "+E5" ∈ Token.tokens source := by decide
  have agree := numerals_agree.2.2 source
  exact ⟨first, second, third, (agree _ first).mp (by decide),
    fun l => absurd ((agree _ second).mpr l) (by decide),
    fun l => absurd ((agree _ third).mpr l) (by decide)⟩

end Number

end LineBasic
