/-
# The language of tokens

What a token can look like is said here without the scan: a newline, a string between quotes, a
symbol, a numeral, a word, and, at the end of a text only, a string that is never closed.  Two
facts tie this language to `Token.tokens`.

* **Nothing else is cut off** (`isTokenList_tokens`).  A scan always holds the beginning of a token
  (`Scan.Holds`); one character keeps that true and cuts off whole tokens only.
* **Every token is cut off as it stands** (`tokens_intercalate`).  Scanned from the beginning, a
  token leaves the scan outside a string with that one token read, and outside a string a blank
  brings the scan back to the beginning.  So what a token becomes does not depend on what stands
  before it.

A letter never ends a lexeme.  Therefore a word may begin with one symbol or one numeral; after a
numeral the first letter is no exponent mark, as a mark goes on with the numeral.
-/
import LineBasic.Token
import Mathlib.Data.List.Chain

namespace LineBasic.Token

/-! ## 1. The language -/

/-- A character that is a token by itself if no letter follows. -/
def isSymbolChar (c : Char) : Bool :=
  c ≠ '"' && c ≠ ' ' && c ≠ '\n' && !c.isAlpha && !c.isDigit && c ≠ '.'

/-- A character that may begin a numeral. -/
def opensNumeral (c : Char) : Bool := c.isDigit || c = '.'

/-- A sign, which a numeral takes in right after an exponent mark. -/
def isSign (c : Char) : Bool := c = '+' || c = '-'

/-- A mark that may end a word. -/
def isTypeMark (c : Char) : Bool := c = '$' || c = '%'

/-- A numeral: a digit or a point, then digits, points, exponent marks and signs, where each sign
stands right after a mark. -/
inductive IsNumeral : List Char → Prop
  | mk {c : Char} {rest : List Char} (first : opensNumeral c)
      (others : ∀ d ∈ rest, opensNumeral d || isExponentMark d || isSign d)
      (signs : (c :: rest).IsChain fun a b => isSign b → isExponentMark a) :
      IsNumeral (c :: rest)

/-- What may stand right before the first letter `c` of a word and belongs to the word. -/
inductive IsLead (c : Char) : List Char → Prop
  | nothing : IsLead c []
  | symbol {d : Char} (hd : isSymbolChar d) : IsLead c [d]
  | numeral {cs : List Char} (hcs : IsNumeral cs) (hc : !isExponentMark c) : IsLead c cs

/-- A word up to its type mark: a first letter with what stands before it, then letters and
digits. -/
inductive IsStem : List Char → Prop
  | mk {lead : List Char} {c : Char} {rest : List Char} (hlead : IsLead c lead) (hc : c.isAlpha)
      (hrest : ∀ d ∈ rest, d.isAlpha || d.isDigit) : IsStem (lead ++ c :: rest)

/-- A token that is complete. -/
inductive IsToken : List Char → Prop
  | newline : IsToken ['\n']
  | literal {cs : List Char} (hcs : '"' ∉ cs) : IsToken ('"' :: (cs ++ ['"']))
  | symbol {c : Char} (hc : isSymbolChar c) : IsToken [c]
  | numeral {cs : List Char} (hcs : IsNumeral cs) : IsToken cs
  | word {cs : List Char} (hcs : IsStem cs) : IsToken cs
  | markedWord {cs : List Char} {c : Char} (hcs : IsStem cs) (hc : isTypeMark c) :
      IsToken (cs ++ [c])

/-- A string that is not closed. -/
inductive IsOpenLiteral : List Char → Prop
  | mk {cs : List Char} (hcs : '"' ∉ cs) : IsOpenLiteral ('"' :: cs)

/-- Tokens in a row; only the last may be a string that is not closed. -/
inductive IsTokenList : List String → Prop
  | nil : IsTokenList []
  | unclosed {t : String} (ht : IsOpenLiteral t.toList) : IsTokenList [t]
  | cons {t : String} {ts : List String} (ht : IsToken t.toList) (hts : IsTokenList ts) :
      IsTokenList (t :: ts)

theorem IsNumeral.ne_nil {cs : List Char} (h : IsNumeral cs) : cs ≠ [] := by
  cases h
  simp

theorem IsNumeral.opensNumeral_of_head {cs : List Char} (h : IsNumeral cs) {c : Char}
    (hc : c ∈ cs.head?) : opensNumeral c := by
  obtain ⟨first, -, -⟩ := h
  cases hc
  exact first

theorem IsStem.ne_nil {cs : List Char} (h : IsStem cs) : cs ≠ [] := by
  cases h
  simp

/-- A numeral goes on through digits, points and exponent marks. -/
theorem IsNumeral.append {cs : List Char} {d : Char} (h : IsNumeral cs)
    (hd : opensNumeral d || isExponentMark d) : IsNumeral (cs ++ [d]) := by
  obtain ⟨first, others, signs⟩ := h
  have hsign : ¬ isSign d := by
    intro hs
    simp only [isSign, Bool.or_eq_true, decide_eq_true_eq] at hs
    rcases hs with rfl | rfl
    · simp [opensNumeral, isExponentMark] at hd
    · simp [opensNumeral, isExponentMark] at hd
  refine .mk first ?_ ?_
  · intro e he
    rcases List.mem_append.mp he with he | he
    · exact others e he
    · rw [List.mem_singleton.mp he]
      simp_all
  · exact signs.append (List.isChain_singleton d) (by simp [hsign])

theorem IsNumeral.append_of_forall {cs ds : List Char} (h : IsNumeral cs)
    (hds : ∀ d ∈ ds, opensNumeral d || isExponentMark d) : IsNumeral (cs ++ ds) := by
  induction ds generalizing cs with
  | nil => rwa [List.append_nil]
  | cons d ds ih =>
    rw [List.append_cons]
    exact ih (h.append (hds d (by simp))) fun e he => hds e (by simp [he])

/-- Digits and points are a numeral. -/
theorem isNumeral_of_forall {cs : List Char} (hne : cs ≠ []) (h : ∀ c ∈ cs, opensNumeral c) :
    IsNumeral cs := by
  cases cs with
  | nil => exact absurd rfl hne
  | cons c cs =>
    have first : IsNumeral [c] := .mk (h c (by simp)) (by simp) (List.isChain_singleton c)
    refine first.append_of_forall fun d hd => ?_
    simp [h d (by simp [hd])]

/-- A numeral goes on with a sign if it ends in an exponent mark. -/
theorem IsNumeral.append_sign {cs : List Char} {m d : Char} (h : IsNumeral (cs ++ [m]))
    (hm : isExponentMark m) (hd : isSign d) : IsNumeral (cs ++ [m] ++ [d]) := by
  generalize hl : cs ++ [m] = l at h
  have hlast : l.getLast? = some m := by simp [← hl]
  obtain ⟨first, others, signs⟩ := h
  refine .mk first ?_ ?_
  · intro e he
    rcases List.mem_append.mp he with he | he
    · exact others e he
    · rw [List.mem_singleton.mp he]
      simp [hd]
  · refine signs.append (List.isChain_singleton d) ?_
    intro a ha b _ _
    rw [hlast] at ha
    cases ha
    exact hm

/-- A word goes on through letters and digits. -/
theorem IsStem.append {cs : List Char} {d : Char} (h : IsStem cs)
    (hd : d.isAlpha || d.isDigit) : IsStem (cs ++ [d]) := by
  obtain ⟨hlead, hc, hrest⟩ := h
  rw [List.append_assoc, List.cons_append]
  refine .mk hlead hc ?_
  intro e he
  rcases List.mem_append.mp he with he | he
  · exact hrest e he
  · rw [List.mem_singleton.mp he]
    exact hd

/-- A string goes on through everything but a quote. -/
theorem IsOpenLiteral.append {cs : List Char} {d : Char} (h : IsOpenLiteral cs) (hd : d ≠ '"') :
    IsOpenLiteral (cs ++ [d]) := by
  obtain ⟨hcs⟩ := h
  exact .mk (by simp [hcs, hd.symm])

/-- A quote closes a string. -/
theorem IsOpenLiteral.close {cs : List Char} (h : IsOpenLiteral cs) : IsToken (cs ++ ['"']) := by
  obtain ⟨hcs⟩ := h
  exact .literal hcs

/-! ## 2. What a scan holds

The invariant of a scan, and what each character does to it.  Outside a string three characters
do the same in every mode; the others go by mode. -/

namespace Scan

/-- The scan holds nothing, or the beginning of a token that fits its mode. -/
inductive Holds : Scan → Prop
  | nothing : Holds initial
  | symbol {c : Char} (hc : isSymbolChar c) : Holds ⟨.start, [c]⟩
  | numeral {p : List Char} (hp : IsNumeral p.reverse) : Holds ⟨.number, p⟩
  | word {p : List Char} (hp : IsStem p.reverse) : Holds ⟨.identifier, p⟩
  | literal {p : List Char} (hp : IsOpenLiteral p.reverse) : Holds ⟨.string, p⟩

/-- Only complete tokens have been cut off, and the scan holds the beginning of one. -/
def Sound (r : List Lexeme × Scan) : Prop := (∀ l ∈ r.1, IsToken l.text.toList) ∧ r.2.Holds

theorem flush_of_ne_nil {s : Scan} (h : s.pending ≠ []) :
    s.flush = [⟨s.mode, String.ofList s.pending.reverse⟩] := by
  simp [Scan.flush, h]

/-- Outside a string, what a scan holds is a token if it is cut off. -/
theorem Holds.flush {s : Scan} (h : s.Holds) (hs : s.mode ≠ .string) :
    ∀ l ∈ s.flush, IsToken l.text.toList := by
  intro l hl
  by_cases hnil : s.pending = []
  · simp [Scan.flush, hnil] at hl
  · rw [flush_of_ne_nil hnil] at hl
    rw [List.mem_singleton.mp hl, String.toList_ofList]
    cases h with
    | nothing => exact absurd rfl hnil
    | symbol hc => exact .symbol hc
    | numeral hp => exact .numeral hp
    | word hp => exact .word hp
    | literal hp => exact absurd rfl hs

theorem Holds.sound_flush {s t : Scan} (h : s.Holds) (hs : s.mode ≠ .string) (ht : t.Holds) :
    Sound (s.flush, t) := ⟨h.flush hs, ht⟩

theorem Holds.sound_nil {s : Scan} (h : s.Holds) : Sound ([], s) := ⟨by simp, h⟩

theorem step_string (p : List Char) (c : Char) :
    step ⟨.string, p⟩ c =
      if c = '"' then ([⟨.string, String.ofList (c :: p).reverse⟩], initial)
      else ([], ⟨.string, c :: p⟩) := by
  simp [step, push, flush]

theorem step_quote {s : Scan} (hs : s.mode ≠ .string) :
    s.step '"' = (s.flush, ⟨.string, ['"']⟩) := by
  simp [step, hs]

theorem step_newline {s : Scan} (hs : s.mode ≠ .string) :
    s.step '\n' = (s.flush ++ [⟨s.mode, newline⟩], initial) := by
  simp [step, hs]

/-- Outside a string a blank ends what the scan holds and brings it back to the beginning. -/
theorem step_blank {s : Scan} (h : s.Holds) (hs : s.mode ≠ .string) :
    s.step ' ' = (s.flush, initial) := by
  cases h with
  | nothing => rfl
  | symbol hc => rfl
  | numeral hp =>
    have hne := hp.ne_nil
    simp_all [step]
  | word hp =>
    have hne := hp.ne_nil
    simp_all [step]
  | literal hp => exact absurd rfl hs

section Plain

variable {c : Char} (hq : c ≠ '"') (hb : c ≠ ' ') (hn : c ≠ '\n')

include hq hb hn

theorem step_start (p : List Char) :
    step ⟨.start, p⟩ c =
      if c.isAlpha then ([], ⟨.identifier, c :: p⟩)
      else if opensNumeral c then (flush ⟨.start, p⟩, ⟨.number, [c]⟩)
      else (flush ⟨.start, p⟩, ⟨.start, [c]⟩) := by
  simp [step, opensNumeral, hq, hb, hn]

theorem step_number (p : List Char) :
    step ⟨.number, p⟩ c =
      if isExponentMark c then ([], ⟨.number, c :: p⟩)
      else if isSign c then
        if endsInMark ⟨.number, p⟩ then ([], ⟨.number, c :: p⟩)
        else (flush ⟨.number, p⟩, ⟨.start, [c]⟩)
      else if c.isAlpha then ([], ⟨.identifier, c :: p⟩)
      else if opensNumeral c then ([], ⟨.number, c :: p⟩)
      else (flush ⟨.number, p⟩, ⟨.start, [c]⟩) := by
  simp [step, push, opensNumeral, isSign, hq, hb, hn]

theorem step_identifier (p : List Char) :
    step ⟨.identifier, p⟩ c =
      if c.isAlpha || c.isDigit then ([], ⟨.identifier, c :: p⟩)
      else if isTypeMark c then ([⟨.identifier, String.ofList (c :: p).reverse⟩], initial)
      else if opensNumeral c then (flush ⟨.identifier, p⟩, ⟨.number, [c]⟩)
      else (flush ⟨.identifier, p⟩, ⟨.start, [c]⟩) := by
  by_cases ha : c.isAlpha <;> by_cases hd : c.isDigit <;>
    simp [step, push, flush, opensNumeral, isTypeMark, hq, hb, hn, ha, hd]

end Plain

/-- A character that no other rule takes is a symbol. -/
theorem isSymbolChar_of_plain {c : Char} (hq : c ≠ '"') (hb : c ≠ ' ') (hn : c ≠ '\n')
    (ha : ¬ c.isAlpha) (ho : ¬ opensNumeral c) : isSymbolChar c := by
  simp_all [isSymbolChar, opensNumeral]

theorem isNumeral_singleton {c : Char} (hc : opensNumeral c) : IsNumeral [c] :=
  .mk hc (by simp) (List.isChain_singleton c)

/-- A first letter and what stands before it are a word so far. -/
theorem isStem_concat {lead : List Char} {c : Char} (hlead : IsLead c lead) (hc : c.isAlpha) :
    IsStem (lead ++ [c]) := .mk hlead hc (by simp)

section Plain

variable {c : Char} (hq : c ≠ '"') (hb : c ≠ ' ') (hn : c ≠ '\n')

include hq hb hn

theorem sound_step_start {p : List Char} (h : Holds ⟨.start, p⟩) (hlead : IsLead c p.reverse) :
    Sound (step ⟨.start, p⟩ c) := by
  rw [step_start hq hb hn]
  split_ifs with ha ho
  · refine (Holds.word ?_).sound_nil
    rw [List.reverse_cons]
    exact isStem_concat hlead ha
  · exact h.sound_flush (by simp) (.numeral (isNumeral_singleton ho))
  · exact h.sound_flush (by simp) (.symbol (isSymbolChar_of_plain hq hb hn ha ho))

theorem sound_step_number {p : List Char} (hp : IsNumeral p.reverse) :
    Sound (step ⟨.number, p⟩ c) := by
  have h : Holds ⟨.number, p⟩ := .numeral hp
  rw [step_number hq hb hn]
  split_ifs with hm hs he ha ho
  · refine (Holds.numeral ?_).sound_nil
    rw [List.reverse_cons]
    exact hp.append (by simp [hm])
  · refine (Holds.numeral ?_).sound_nil
    cases p with
    | nil => simp [endsInMark] at he
    | cons m p =>
      rw [List.reverse_cons] at hp
      rw [List.reverse_cons, List.reverse_cons]
      exact hp.append_sign he hs
  · refine h.sound_flush (by simp) (.symbol ?_)
    simp only [isSign, Bool.or_eq_true, decide_eq_true_eq] at hs
    rcases hs with rfl | rfl
    · decide
    · decide
  · refine (Holds.word ?_).sound_nil
    rw [List.reverse_cons]
    exact isStem_concat (.numeral hp (by simp [hm])) ha
  · refine (Holds.numeral ?_).sound_nil
    rw [List.reverse_cons]
    exact hp.append (by simp [ho])
  · exact h.sound_flush (by simp) (.symbol (isSymbolChar_of_plain hq hb hn ha ho))

theorem sound_step_identifier {p : List Char} (hp : IsStem p.reverse) :
    Sound (step ⟨.identifier, p⟩ c) := by
  have h : Holds ⟨.identifier, p⟩ := .word hp
  rw [step_identifier hq hb hn]
  split_ifs with ha ht ho
  · refine (Holds.word ?_).sound_nil
    rw [List.reverse_cons]
    exact hp.append ha
  · refine ⟨?_, .nothing⟩
    intro l hl
    rw [List.mem_singleton.mp hl, String.toList_ofList, List.reverse_cons]
    exact .markedWord hp ht
  · exact h.sound_flush (by simp) (.numeral (isNumeral_singleton ho))
  · have ha' : ¬ c.isAlpha := by simp_all
    exact h.sound_flush (by simp) (.symbol (isSymbolChar_of_plain hq hb hn ha' ho))

end Plain

theorem sound_step_string {p : List Char} (hp : IsOpenLiteral p.reverse) (c : Char) :
    Sound (step ⟨.string, p⟩ c) := by
  rw [step_string]
  split_ifs with hq
  · refine ⟨?_, .nothing⟩
    intro l hl
    rw [List.mem_singleton.mp hl, String.toList_ofList, List.reverse_cons, hq]
    exact hp.close
  · refine (Holds.literal ?_).sound_nil
    rw [List.reverse_cons]
    exact hp.append hq

/-- **One character.**  It cuts off complete tokens only and leaves the beginning of one. -/
theorem sound_step {s : Scan} (h : s.Holds) (c : Char) : Sound (s.step c) := by
  by_cases hs : s.mode = .string
  · cases h with
    | literal hp => exact sound_step_string hp c
    | _ => simp_all [initial]
  by_cases hq : c = '"'
  · subst hq
    rw [step_quote hs]
    exact h.sound_flush hs (.literal (.mk (by simp)))
  by_cases hb : c = ' '
  · subst hb
    rw [step_blank h hs]
    exact h.sound_flush hs .nothing
  by_cases hn : c = '\n'
  · subst hn
    rw [step_newline hs]
    refine ⟨?_, .nothing⟩
    intro l hl
    rcases List.mem_append.mp hl with hl | hl
    · exact h.flush hs l hl
    · rw [List.mem_singleton.mp hl, newline, String.toList_ofList]
      exact .newline
  cases h with
  | nothing => exact sound_step_start hq hb hn .nothing .nothing
  | symbol hc => exact sound_step_start hq hb hn (.symbol hc) (.symbol hc)
  | numeral hp => exact sound_step_number hq hb hn hp
  | word hp => exact sound_step_identifier hq hb hn hp
  | literal hp => exact absurd rfl hs

/-- **A whole text.**  Complete tokens are cut off on the way, and the beginning of one is left. -/
theorem sound_run {s : Scan} (h : s.Holds) (cs : List Char) : Sound (s.run cs) := by
  induction cs generalizing s with
  | nil => exact h.sound_nil
  | cons c cs ih =>
    have now := sound_step h c
    have later := ih now.2
    refine ⟨?_, later.2⟩
    intro l hl
    rcases List.mem_append.mp hl with hl | hl
    · exact now.1 l hl
    · exact later.1 l hl

end Scan

/-! ## 3. Every text is a list of tokens -/

theorem IsTokenList.append {ts us : List String} (hts : ∀ t ∈ ts, IsToken t.toList)
    (hus : IsTokenList us) : IsTokenList (ts ++ us) := by
  induction ts with
  | nil => exact hus
  | cons t ts ih => exact .cons (hts t (by simp)) (ih fun t' ht' => hts t' (by simp [ht']))

theorem IsTokenList.mem {ts : List String} (h : IsTokenList ts) {t : String} (ht : t ∈ ts) :
    IsToken t.toList ∨ IsOpenLiteral t.toList := by
  induction h with
  | nil => cases ht
  | unclosed hopen =>
    rw [List.mem_singleton.mp ht]
    exact .inr hopen
  | cons hfirst _ ih =>
    rcases List.mem_cons.mp ht with rfl | ht
    · exact .inl hfirst
    · exact ih ht

/-- **Nothing but tokens is cut off**, and an unclosed string only by the end of the text. -/
theorem isTokenList_tokens (source : String) : IsTokenList (tokens source) := by
  obtain ⟨cut, holds⟩ := Scan.sound_run .nothing source.toList
  have hcut : ∀ t ∈ (Scan.initial.run source.toList).1.map (·.text), IsToken t.toList := by
    intro t ht
    obtain ⟨l, hl, rfl⟩ := List.mem_map.mp ht
    exact cut l hl
  simp only [tokens, lexemes, List.map_append]
  refine IsTokenList.append hcut ?_
  by_cases hs : (Scan.initial.run source.toList).2.mode = .string
  · generalize (Scan.initial.run source.toList).2 = s at holds hs
    cases holds with
    | literal hp =>
      rw [Scan.flush_of_ne_nil (by rintro rfl; cases hp)]
      refine .unclosed ?_
      rw [String.toList_ofList]
      exact hp
    | _ => simp_all [Scan.initial]
  · rw [← List.append_nil ((Scan.flush _).map _)]
    refine IsTokenList.append ?_ .nil
    intro t ht
    obtain ⟨l, hl, rfl⟩ := List.mem_map.mp ht
    exact holds.flush hs l hl

/-! ## 4. Where a text may be cut

Outside a string a blank or a newline separates what stands before it from what follows. -/

/-- No string is open at the end of the text. -/
def OutsideString (cs : List Char) : Prop := (Scan.initial.run cs).2.mode ≠ .string

theorem lexemes_append_blank {a : List Char} (h : OutsideString a) (b : List Char) :
    lexemes (a ++ ' ' :: b) = lexemes a ++ lexemes b := by
  have holds := (Scan.sound_run .nothing a).2
  simp only [lexemes, Scan.run_append, Scan.run, Scan.step_blank holds h, List.append_assoc]

theorem lexemes_append_newline {a : List Char} (h : OutsideString a) (b : List Char) :
    lexemes (a ++ '\n' :: b)
      = lexemes a ++ ⟨(Scan.initial.run a).2.mode, newline⟩ :: lexemes b := by
  simp only [lexemes, Scan.run_append, Scan.run, Scan.step_newline h, List.append_assoc,
    List.cons_append, List.nil_append]

theorem tokens_append_blank {a : String} (h : OutsideString a.toList) (b : String) :
    tokens (a ++ " " ++ b) = tokens a ++ tokens b := by
  have hl : (a ++ " " ++ b).toList = a.toList ++ ' ' :: b.toList := by simp
  rw [tokens, hl, lexemes_append_blank h, List.map_append]
  rfl

theorem tokens_append_newline {a : String} (h : OutsideString a.toList) (b : String) :
    tokens (a ++ "\n" ++ b) = tokens a ++ newline :: tokens b := by
  have hl : (a ++ "\n" ++ b).toList = a.toList ++ '\n' :: b.toList := by simp
  rw [tokens, hl, lexemes_append_newline h, List.map_append]
  rfl

/-! ## 5. Every token is cut off as it stands -/

/-- The members of a class that leaves out the quote, the blank and the newline. -/
theorem plain_of_class {p : Char → Bool} (hp : p '"' = false ∧ p ' ' = false ∧ p '\n' = false)
    {c : Char} (h : p c) : c ≠ '"' ∧ c ≠ ' ' ∧ c ≠ '\n' := by
  obtain ⟨quote, blank, newline⟩ := hp
  refine ⟨?_, ?_, ?_⟩
  · rintro rfl
    exact absurd h (by simp [quote])
  · rintro rfl
    exact absurd h (by simp [blank])
  · rintro rfl
    exact absurd h (by simp [newline])

theorem plain_of_isAlpha {c : Char} (h : c.isAlpha) : c ≠ '"' ∧ c ≠ ' ' ∧ c ≠ '\n' :=
  plain_of_class (by decide) h

theorem plain_of_opensNumeral {c : Char} (h : opensNumeral c) : c ≠ '"' ∧ c ≠ ' ' ∧ c ≠ '\n' :=
  plain_of_class (by decide) h

theorem plain_of_isSign {c : Char} (h : isSign c) : c ≠ '"' ∧ c ≠ ' ' ∧ c ≠ '\n' :=
  plain_of_class (by decide) h

theorem plain_of_isTypeMark {c : Char} (h : isTypeMark c) : c ≠ '"' ∧ c ≠ ' ' ∧ c ≠ '\n' :=
  plain_of_class (by decide) h

theorem isAlpha_iff_toNat {c : Char} :
    c.isAlpha ↔ (65 ≤ c.toNat ∧ c.toNat ≤ 90) ∨ (97 ≤ c.toNat ∧ c.toNat ≤ 122) := by
  have unfolded : c.isAlpha
      = (decide (c.val ≥ 65 ∧ c.val ≤ 90) || (c.val ≥ 97 && c.val ≤ 122)) := rfl
  simp [unfolded, UInt32.le_iff_toNat_le]

theorem not_isAlpha_of_isDigit {c : Char} (h : c.isDigit) : ¬ c.isAlpha := by
  rw [Char.isDigit_iff_toNat] at h
  rw [isAlpha_iff_toNat]
  simp at h
  omega

theorem not_isAlpha_of_opensNumeral {c : Char} (h : opensNumeral c) : ¬ c.isAlpha := by
  simp only [opensNumeral, Bool.or_eq_true, decide_eq_true_eq] at h
  rcases h with h | rfl
  · exact not_isAlpha_of_isDigit h
  · decide

theorem isAlpha_of_isExponentMark {c : Char} (h : isExponentMark c) : c.isAlpha := by
  simp only [isExponentMark, Bool.or_eq_true, decide_eq_true_eq] at h
  rcases h with rfl | rfl
  · decide
  · decide

theorem not_isAlpha_of_isSign {c : Char} (h : isSign c) : ¬ c.isAlpha := by
  simp only [isSign, Bool.or_eq_true, decide_eq_true_eq] at h
  rcases h with rfl | rfl
  · decide
  · decide

namespace Scan

/-- A numeral takes in every character that may go on with it. -/
theorem step_numeral {a d : Char} {p : List Char}
    (hd : opensNumeral d || isExponentMark d || isSign d) (hs : isSign d → isExponentMark a) :
    step ⟨.number, a :: p⟩ d = ([], ⟨.number, d :: a :: p⟩) := by
  simp only [Bool.or_eq_true] at hd
  rcases hd with (ho | hm) | hd
  · obtain ⟨hq, hb, hn⟩ := plain_of_opensNumeral ho
    have ha := not_isAlpha_of_opensNumeral ho
    have hm : ¬ isExponentMark d := fun hm => ha (isAlpha_of_isExponentMark hm)
    have hs : ¬ isSign d := by
      intro hs
      simp only [isSign, Bool.or_eq_true, decide_eq_true_eq] at hs
      rcases hs with rfl | rfl
      · simp [opensNumeral] at ho
      · simp [opensNumeral] at ho
    simp [step_number hq hb hn, hm, hs, ha, ho]
  · obtain ⟨hq, hb, hn⟩ := plain_of_isAlpha (isAlpha_of_isExponentMark hm)
    simp [step_number hq hb hn, hm]
  · obtain ⟨hq, hb, hn⟩ := plain_of_isSign hd
    have hm : ¬ isExponentMark d := fun hm =>
      not_isAlpha_of_isSign hd (isAlpha_of_isExponentMark hm)
    simp [step_number hq hb hn, hm, hd, endsInMark, hs hd]

theorem run_numeral_rest {a : Char} {p rest : List Char}
    (others : ∀ d ∈ rest, opensNumeral d || isExponentMark d || isSign d)
    (signs : (a :: rest).IsChain fun a b => isSign b → isExponentMark a) :
    run ⟨.number, a :: p⟩ rest = ([], ⟨.number, rest.reverse ++ a :: p⟩) := by
  induction rest generalizing a p with
  | nil => rfl
  | cons d rest ih =>
    obtain ⟨hs, signs⟩ := List.isChain_cons_cons.mp signs
    have hd := others d (by simp)
    simp [run, step_numeral hd hs, ih (fun e he => others e (by simp [he])) signs]

theorem run_numeral {cs : List Char} (h : IsNumeral cs) :
    initial.run cs = ([], ⟨.number, cs.reverse⟩) := by
  obtain ⟨first, others, signs⟩ := h
  obtain ⟨hq, hb, hn⟩ := plain_of_opensNumeral first
  have ha := not_isAlpha_of_opensNumeral first
  simp [run, initial, step_start hq hb hn, ha, first, flush, run_numeral_rest others signs]

theorem run_word_rest {p rest : List Char} (hrest : ∀ d ∈ rest, d.isAlpha || d.isDigit) :
    run ⟨.identifier, p⟩ rest = ([], ⟨.identifier, rest.reverse ++ p⟩) := by
  induction rest generalizing p with
  | nil => rfl
  | cons d rest ih =>
    have hd := hrest d (by simp)
    have plain : d ≠ '"' ∧ d ≠ ' ' ∧ d ≠ '\n' := by
      rcases (Bool.or_eq_true _ _).mp hd with hd | hd
      · exact plain_of_isAlpha hd
      · exact plain_of_opensNumeral (by simp [opensNumeral, hd])
    obtain ⟨hq, hb, hn⟩ := plain
    simp [run, step_identifier hq hb hn, hd, ih (fun e he => hrest e (by simp [he]))]

/-- The first letter joins what stands before it. -/
theorem run_lead {c : Char} {lead : List Char} (hlead : IsLead c lead) (hc : c.isAlpha) :
    initial.run (lead ++ [c]) = ([], ⟨.identifier, c :: lead.reverse⟩) := by
  obtain ⟨hq, hb, hn⟩ := plain_of_isAlpha hc
  cases hlead with
  | nothing => simp [run, initial, step_start hq hb hn, hc]
  | symbol hd =>
    simp only [isSymbolChar, Bool.and_eq_true, decide_eq_true_eq, Bool.not_eq_true'] at hd
    obtain ⟨⟨⟨⟨⟨hq', hb'⟩, hn'⟩, ha'⟩, hd'⟩, hp'⟩ := hd
    simp [run, initial, step_start hq' hb' hn', step_start hq hb hn, hc, ha', hd', hp',
      opensNumeral, flush]
  | numeral hcs hm =>
    have hm : ¬ isExponentMark c := by simpa using hm
    have hs : ¬ isSign c := fun hs => not_isAlpha_of_isSign hs hc
    simp [run_append, run_numeral hcs, run, step_number hq hb hn, hm, hs, hc]

theorem run_stem {cs : List Char} (h : IsStem cs) :
    initial.run cs = ([], ⟨.identifier, cs.reverse⟩) := by
  obtain ⟨hlead, hc, hrest⟩ := h
  rw [List.append_cons, run_append, run_lead hlead hc]
  simp [run_word_rest hrest]

theorem run_string {p cs : List Char} (hcs : '"' ∉ cs) :
    run ⟨.string, p⟩ cs = ([], ⟨.string, cs.reverse ++ p⟩) := by
  induction cs generalizing p with
  | nil => rfl
  | cons c cs ih =>
    obtain ⟨hc, hcs⟩ := not_or.mp (mt List.mem_cons.mpr hcs)
    simp [run, step_string, Ne.symm hc, ih hcs]

theorem run_openLiteral {cs : List Char} (h : IsOpenLiteral cs) :
    initial.run cs = ([], ⟨.string, cs.reverse⟩) := by
  obtain ⟨hcs⟩ := h
  simp [run, step_quote, initial, flush, run_string hcs]

end Scan

theorem Scan.run_literal {cs : List Char} (h : '"' ∉ cs) :
    Scan.initial.run ('"' :: (cs ++ ['"']))
      = ([⟨.string, String.ofList ('"' :: (cs ++ ['"']))⟩], Scan.initial) := by
  rw [← List.cons_append, Scan.run_append, Scan.run_openLiteral (.mk h)]
  simp [Scan.run, Scan.step_string]

theorem Scan.run_markedWord {cs : List Char} {c : Char} (h : IsStem cs) (hc : isTypeMark c) :
    Scan.initial.run (cs ++ [c])
      = ([⟨.identifier, String.ofList (cs ++ [c])⟩], Scan.initial) := by
  obtain ⟨hq, hb, hn⟩ := plain_of_isTypeMark hc
  have hl : ¬ c.isAlpha ∧ ¬ c.isDigit := by
    simp only [isTypeMark, Bool.or_eq_true, decide_eq_true_eq] at hc
    rcases hc with rfl | rfl
    · exact ⟨by decide, by decide⟩
    · exact ⟨by decide, by decide⟩
  rw [Scan.run_append, Scan.run_stem h]
  simp [Scan.run, Scan.step_identifier hq hb hn, hl, hc]

/-- What a token looks like to the scan: outside a string after it, with that one token cut off
or pending. -/
theorem lexemes_token {cs : List Char} (h : IsToken cs) :
    OutsideString cs ∧ (lexemes cs).map (·.text) = [String.ofList cs] := by
  cases h with
  | newline => exact ⟨by simp [OutsideString, Scan.run, Scan.step, Scan.initial], rfl⟩
  | literal hcs =>
    rw [OutsideString, lexemes, Scan.run_literal hcs]
    exact ⟨by simp [Scan.initial], rfl⟩
  | symbol hc =>
    simp only [isSymbolChar, Bool.and_eq_true, decide_eq_true_eq, Bool.not_eq_true'] at hc
    obtain ⟨⟨⟨⟨⟨hq, hb⟩, hn⟩, ha⟩, hd⟩, hp⟩ := hc
    simp [OutsideString, lexemes, Scan.run, Scan.initial, Scan.step_start hq hb hn, ha, hd, hp,
      opensNumeral, Scan.flush]
  | numeral hcs =>
    simp [OutsideString, lexemes, Scan.run_numeral hcs, Scan.flush, hcs.ne_nil]
  | word hcs =>
    simp [OutsideString, lexemes, Scan.run_stem hcs, Scan.flush, hcs.ne_nil]
  | markedWord hcs hc =>
    rw [OutsideString, lexemes, Scan.run_markedWord hcs hc]
    exact ⟨by simp [Scan.initial], rfl⟩

theorem outsideString_token {t : String} (h : IsToken t.toList) : OutsideString t.toList :=
  (lexemes_token h).1

theorem tokens_token {t : String} (h : IsToken t.toList) : tokens t = [t] := by
  rw [tokens, (lexemes_token h).2, String.ofList_toList]

/-- A token and a blank stand for that token, whatever follows. -/
theorem tokens_token_append {t : String} (h : IsToken t.toList) (text : String) :
    tokens (t ++ " " ++ text) = t :: tokens text := by
  rw [tokens_append_blank (outsideString_token h), tokens_token h, List.singleton_append]

theorem tokens_openLiteral {t : String} (h : IsOpenLiteral t.toList) : tokens t = [t] := by
  have hne : t.toList.reverse ≠ [] := by
    rw [Ne, List.reverse_eq_nil_iff]
    rintro hnil
    rw [hnil] at h
    cases h
  rw [tokens, lexemes, Scan.run_openLiteral h, Scan.flush_of_ne_nil hne]
  simp

/-- **Tokens joined by blanks are read back.** -/
theorem tokens_intercalate {ts : List String} (h : IsTokenList ts) :
    tokens (" ".intercalate ts) = ts := by
  induction h with
  | nil => rfl
  | unclosed ht => rw [String.intercalate_singleton, tokens_openLiteral ht]
  | @cons t ts ht hts ih =>
    cases ts with
    | nil => rw [String.intercalate_singleton, tokens_token ht]
    | cons u us =>
      rw [String.intercalate_cons_cons, tokens_token_append ht, ih]

/-- **The token language is exact.**  Every text is cut into a list of tokens of the language, and
every list of tokens of the language, written with single blanks between them, is cut back into
that list. -/
theorem tokens_exact :
    (∀ source : String, IsTokenList (tokens source)) ∧
      ∀ ts : List String, IsTokenList ts → tokens (" ".intercalate ts) = ts :=
  ⟨isTokenList_tokens, fun _ h => tokens_intercalate h⟩

/-- A symbol before a letter, a signed exponent, a newline and an unclosed string with a blank at
its end, all in one list. -/
theorem tokens_exact_mixed :
    IsTokenList ["(A", "1.5E-3", "\n", "2B1$", "\"x y\"", "\"open "] ∧
      tokens (" ".intercalate ["(A", "1.5E-3", "\n", "2B1$", "\"x y\"", "\"open "])
        = ["(A", "1.5E-3", "\n", "2B1$", "\"x y\"", "\"open "] := by
  have h : IsTokenList ["(A", "1.5E-3", "\n", "2B1$", "\"x y\"", "\"open "] := by
    refine .cons (.word ?_) (.cons (.numeral ?_) (.cons .newline (.cons ?_ (.cons ?_
      (.unclosed ?_)))))
    · exact @IsStem.mk ['('] 'A' [] (.symbol (by decide)) (by decide) (by simp)
    · exact @IsNumeral.mk '1' ['.', '5', 'E', '-', '3'] (by decide)
        (by simp [opensNumeral, isExponentMark, isSign]) (by decide)
    · refine @IsToken.markedWord ['2', 'B', '1'] '$' ?_ (by decide)
      refine @IsStem.mk ['2'] 'B' ['1'] (.numeral ?_ (by decide)) (by decide) (by simp)
      exact .mk (by decide) (by simp) (List.isChain_singleton _)
    · exact @IsToken.literal ['x', ' ', 'y'] (by decide)
    · exact @IsOpenLiteral.mk ['o', 'p', 'e', 'n', ' '] (by decide)
  exact ⟨h, tokens_exact.2 _ h⟩

end LineBasic.Token
