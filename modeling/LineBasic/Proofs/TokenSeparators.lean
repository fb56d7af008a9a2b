/-
# Where a source may be cut

A blank or a newline outside a string separates: what stands before it and what stands behind it
have their tokens each for itself, and a newline is a token between them.  Inside a string it does
not, since it is then part of the string.  Which of the two is the case is decided by the quotes
before it alone, so **a source may be cut at a blank or a newline iff the number of quotes before it
is even** (`tokensOfBytes_cut_iff`).

* If the number is even, the scan is outside a string, and there a blank or a newline brings it back
  to the beginning, whatever it held.
* If it is odd, the scan holds the beginning of a string.  A separator joins it, so the token that
  comes of it is longer than the one that the end of the first part would have cut off
  (`outsideString_of_tokens_append`).

Sources are bytes here, and need not be the encoding of any text.  Blanks, newlines and quotes are
bytes that stand for themselves, and so are neither lost nor made by decoding.
-/
import Mathlib
import LineBasic.Proofs.TokenReading

namespace LineBasic.Token

/-! ## 1. Inside a string -/

/-- A scan inside a string holds the quote that opened it. -/
theorem exists_pending_of_inside {a : List Char} (inside : ¬ OutsideString a) :
    ∃ p, p ≠ [] ∧ (Scan.initial.run a).2 = ⟨.string, p⟩ := by
  have holds := (Scan.sound_run .nothing a).2
  rw [OutsideString, not_not] at inside
  generalize (Scan.initial.run a).2 = s at holds inside
  cases holds with
  | literal hp =>
    refine ⟨_, ?_, rfl⟩
    rintro rfl
    cases hp
  | _ => cases inside

/-- **Inside a string nothing separates.**  A text keeps all its tokens in front of a further
character that is no quote only if no string is open at its end. -/
theorem outsideString_of_tokens_append {a b : List Char} {c : Char} (hc : c ≠ '"')
    {others : List String}
    (same : tokens (String.ofList (a ++ c :: b)) = tokens (String.ofList a) ++ others) :
    OutsideString a := by
  by_contra inside
  obtain ⟨p, nonempty, state⟩ := exists_pending_of_inside inside
  obtain ⟨l, ls, later, begins⟩ :=
    Scan.run_pending (s := ⟨.string, c :: p⟩) (List.cons_ne_nil c p) b
  have joined : Scan.run ⟨.string, p⟩ (c :: b) = Scan.run ⟨.string, c :: p⟩ b := by
    rw [Scan.run, Scan.step_string, if_neg hc]
    rfl
  have cut : Scan.flush ⟨.string, p⟩ = [⟨.string, String.ofList p.reverse⟩] :=
    Scan.flush_of_ne_nil nonempty
  -- the token that begins with the open string is longer by `c`, at least
  rw [tokens_ofList_append, tokens_ofList, state, joined, later, cut, List.append_assoc,
    List.append_cancel_left_eq] at same
  have shorter : l.text = String.ofList p.reverse := (List.cons.inj same).1
  have long := begins.length_le
  rw [shorter] at long
  simp at long

/-! ## 2. Separators -/

variable (a b : List Char)

/-- **A blank separates iff it is outside a string.** -/
theorem tokens_blank_iff :
    tokens (String.ofList (a ++ ' ' :: b)) = tokens (String.ofList a) ++ tokens (String.ofList b)
      ↔ Even (a.count '"') := by
  rw [← outsideString_iff]
  constructor
  · intro same
    exact outsideString_of_tokens_append (by decide) same
  · intro outside
    simp only [tokens, String.toList_ofList, lexemes_append_blank outside, List.map_append]

/-- **A newline separates iff it is outside a string.** -/
theorem tokens_newline_iff :
    tokens (String.ofList (a ++ '\n' :: b))
        = tokens (String.ofList a) ++ newline :: tokens (String.ofList b)
      ↔ Even (a.count '"') := by
  rw [← outsideString_iff]
  constructor
  · intro same
    exact outsideString_of_tokens_append (by decide) same
  · intro outside
    simp only [tokens, String.toList_ofList, lexemes_append_newline outside, List.map_append,
      List.map_cons]

/-! ## 3. Bytes -/

/-- The tokens of a source that comes in as bytes. -/
def tokensOfBytes (bytes : List UInt8) : List String :=
  tokens (String.ofList (Text.Utf8.decode bytes))

/-- **A source may be cut at a blank or a newline iff the number of quotes before it is even.**  Its
tokens are then those of the two parts, with the newline token in between if it was a newline. -/
theorem tokensOfBytes_cut_iff (a b : List UInt8) :
    (tokensOfBytes (a ++ ' '.toUInt8 :: b) = tokensOfBytes a ++ tokensOfBytes b
        ↔ Even (a.count '"'.toUInt8))
      ∧ (tokensOfBytes (a ++ '\n'.toUInt8 :: b) = tokensOfBytes a ++ newline :: tokensOfBytes b
        ↔ Even (a.count '"'.toUInt8)) := by
  have quotes : (Text.Utf8.decode a).count '"' = a.count '"'.toUInt8 :=
    Text.Utf8.count_decode (x := '"'.toUInt8) (by decide) a
  have blank : Text.Utf8.decode (a ++ ' '.toUInt8 :: b)
      = Text.Utf8.decode a ++ ' ' :: Text.Utf8.decode b :=
    Text.Utf8.decode_append_ascii (by decide) a b
  have line : Text.Utf8.decode (a ++ '\n'.toUInt8 :: b)
      = Text.Utf8.decode a ++ '\n' :: Text.Utf8.decode b :=
    Text.Utf8.decode_append_ascii (by decide) a b
  rw [tokensOfBytes, tokensOfBytes, tokensOfBytes, tokensOfBytes, blank, line, ← quotes]
  exact ⟨tokens_blank_iff _ _, tokens_newline_iff _ _⟩

end LineBasic.Token
