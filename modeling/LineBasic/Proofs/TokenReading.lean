/-
# Reading a source

A source comes in as bytes, and it may break down before its end.  Two facts say that its tokens can
be relied on all the same.

* **Nothing is dropped but blanks** (`tokens_of_bytes`).  The tokens in a row are the characters of
  the source, less the blanks that have an even number of quotes before them.  No token is empty,
  and only a string holds a blank, or a newline with something else.
* **What was read before a breakdown stays** (`tokens_before_breakdown`).  A source that breaks down
  has the tokens of what it delivered.  Had it gone on, all of them but the last would be the same,
  and the last would have been the beginning of its token.

The second fact holds because a scan never lets go of what it holds: a character joins the lexeme
under construction or cuts it off as it is (`Scan.step_pending`), so the next token that is cut off
begins with it (`Scan.run_pending`).
-/
import Mathlib
import LineBasic.Proofs.ByteDecoding
import LineBasic.Proofs.TokenText

namespace LineBasic.Token

/-! ## 1. Blanks by their place -/

/-- A text less the blanks that have an even number of quotes before them. -/
def withoutOuterBlanks (text : List Char) : List Char :=
  (text.zipIdx.filter fun c => ¬ (c.1 = ' ' ∧ Even ((text.take c.2).count '"'))).map (·.1)

/-- Inside a string is behind an odd number of quotes. -/
theorem unspaced_eq (before cs : List Char) :
    unspaced (¬ Even (before.count '"')) cs
      = ((cs.zipIdx before.length).filter fun c =>
          ¬ (c.1 = ' ' ∧ Even (((before ++ cs).take c.2).count '"'))).map (·.1) := by
  induction cs generalizing before with
  | nil => rfl
  | cons c cs ih =>
    have turned : (decide (¬ Even (before.count '"')) ^^ decide (c = '"'))
        = decide (¬ Even ((before ++ [c]).count '"')) := by
      by_cases even : Even (before.count '"') <;> by_cases quote : c = '"' <;>
        simp [even, quote, Nat.even_add_one, -Nat.not_even_iff_odd]
    have later := ih (before ++ [c])
    rw [List.append_assoc, List.singleton_append, List.length_append, List.length_singleton]
      at later
    rw [unspaced, turned, later, List.zipIdx_cons, List.filter_cons]
    simp only [List.take_left]
    by_cases blank : c = ' ' ∧ Even (before.count '"')
    · simp [blank]
    · have kept : (if c = ' ' && !decide (¬ Even (before.count '"')) then [] else [c]) = [c] := by
        simp only [decide_not, Bool.not_not, Bool.and_eq_true, decide_eq_true_eq, if_neg blank]
      rw [kept, if_pos (decide_eq_true blank)]
      rfl

theorem unspaced_eq_withoutOuterBlanks (text : List Char) :
    unspaced false text = withoutOuterBlanks text := by
  have outside : false = decide (¬ Even (([] : List Char).count '"')) := by decide
  rw [outside]
  exact unspaced_eq [] text

/-! ## 2. The characters of one token -/

/-- No character is a quote, a blank or a newline. -/
def IsPlain (cs : List Char) : Prop := ∀ c ∈ cs, c ≠ '"' ∧ c ≠ ' ' ∧ c ≠ '\n'

theorem IsPlain.append {cs ds : List Char} (hcs : IsPlain cs) (hds : IsPlain ds) :
    IsPlain (cs ++ ds) := by
  intro c hc
  rcases List.mem_append.mp hc with hc | hc
  · exact hcs c hc
  · exact hds c hc

theorem isPlain_singleton {c : Char} (h : c ≠ '"' ∧ c ≠ ' ' ∧ c ≠ '\n') : IsPlain [c] := by
  intro d hd
  rwa [List.mem_singleton.mp hd]

theorem isPlain_symbol {c : Char} (h : isSymbolChar c) : IsPlain [c] :=
  isPlain_singleton (plain_of_class (by decide) h)

theorem IsNumeral.isPlain {cs : List Char} (h : IsNumeral cs) : IsPlain cs := by
  obtain ⟨first, others, -⟩ := h
  refine (isPlain_singleton (plain_of_opensNumeral first)).append fun d hd => ?_
  exact plain_of_class (p := fun d => opensNumeral d || isExponentMark d || isSign d) (by decide)
    (others d hd)

theorem IsStem.isPlain {cs : List Char} (h : IsStem cs) : IsPlain cs := by
  obtain ⟨hlead, hc, hrest⟩ := h
  refine IsPlain.append ?_ ((isPlain_singleton (plain_of_isAlpha hc)).append fun d hd => ?_)
  · cases hlead with
    | nothing =>
      intro d hd
      cases hd
    | symbol hd => exact isPlain_symbol hd
    | numeral hcs _ => exact hcs.isPlain
  · exact plain_of_class (p := fun d => d.isAlpha || d.isDigit) (by decide) (hrest d hd)

/-- A token is the newline, begins with a quote, or is plain. -/
theorem IsToken.isPlain {cs : List Char} (h : IsToken cs) :
    cs = ['\n'] ∨ cs.head? = some '"' ∨ cs ≠ [] ∧ IsPlain cs := by
  cases h with
  | newline => exact .inl rfl
  | literal hcs => exact .inr (.inl rfl)
  | symbol hc => exact .inr (.inr ⟨List.cons_ne_nil _ _, isPlain_symbol hc⟩)
  | numeral hcs => exact .inr (.inr ⟨hcs.ne_nil, hcs.isPlain⟩)
  | word hcs => exact .inr (.inr ⟨hcs.ne_nil, hcs.isPlain⟩)
  | markedWord hcs hc =>
    refine .inr (.inr ⟨by simp, hcs.isPlain.append (isPlain_singleton ?_)⟩)
    exact plain_of_isTypeMark hc

theorem IsOpenLiteral.head?_eq {cs : List Char} (h : IsOpenLiteral cs) : cs.head? = some '"' := by
  cases h
  rfl

/-- **Only a string holds a blank, or a newline with something else.** -/
theorem shape_of_token {source t : String} (h : t ∈ tokens source) :
    t ≠ "" ∧ ((' ' ∈ t.toList ∨ '\n' ∈ t.toList ∧ t ≠ newline) → t.toList.head? = some '"') := by
  have quoted : t.toList.head? = some '"' → t ≠ "" := by
    rintro hquote rfl
    cases hquote
  rcases (isTokenList_tokens source).mem h with token | hopen
  · rcases token.isPlain with line | hquote | ⟨nonempty, plain⟩
    · obtain rfl : t = newline := String.toList_injective line
      exact ⟨by decide, by simp [newline]⟩
    · exact ⟨quoted hquote, fun _ => hquote⟩
    · constructor
      · rintro rfl
        exact nonempty rfl
      · rintro (blank | ⟨line, -⟩)
        · exact absurd rfl (plain ' ' blank).2.1
        · exact absurd rfl (plain '\n' line).2.2
  · exact ⟨quoted hopen.head?_eq, fun _ => hopen.head?_eq⟩

/-! ## 3. From bytes to tokens -/

theorem join_tokens (source : String) :
    String.join (tokens source) = String.ofList (withoutOuterBlanks source.toList) := by
  rw [← String.toList_inj, String.toList_join, flatMap_tokens, String.toList_ofList,
    unspaced_eq_withoutOuterBlanks]

/-- **Nothing is dropped but blanks.**  Bytes are read as characters by their encodings.  The tokens
in a row are these characters, less the blanks with an even number of quotes before them.  No token
is empty, and one that holds a blank, or a newline with something else, begins with a quote. -/
theorem tokens_of_bytes (bytes : List UInt8) :
    let text := Text.Utf8.decode bytes
    let ts := tokens (String.ofList text)
    Text.Utf8.Decodes bytes text
      ∧ String.join ts = String.ofList (withoutOuterBlanks text)
      ∧ ∀ t ∈ ts, t ≠ ""
        ∧ ((' ' ∈ t.toList ∨ '\n' ∈ t.toList ∧ t ≠ newline) → t.toList.head? = some '"') := by
  intro text ts
  refine ⟨Text.Utf8.decodes_decode bytes, ?_, fun t ht => shape_of_token ht⟩
  have joined := join_tokens (String.ofList text)
  rwa [String.toList_ofList] at joined

/-! ## 4. What a scan holds stays together -/

namespace Scan

/-- **A character joins what a scan holds, or cuts off a token that begins with it.** -/
theorem step_pending {s : Scan} (h : s.pending ≠ []) (c : Char) :
    ((s.step c).1 = [] ∧ (s.step c).2.pending = c :: s.pending)
      ∨ ∃ l ls, (s.step c).1 = l :: ls ∧ s.pending.reverse <+: l.text.toList := by
  obtain ⟨mode, p⟩ := s
  have cut : ∀ more, ∃ l ls, flush ⟨mode, p⟩ ++ more = l :: ls ∧ p.reverse <+: l.text.toList := by
    intro more
    rw [flush_of_ne_nil h]
    exact ⟨_, more, rfl, by simp⟩
  have cutHere : ∃ l ls, flush ⟨mode, p⟩ = l :: ls ∧ p.reverse <+: l.text.toList := by
    simpa using cut []
  -- a quote that closes a string and a type mark are taken in before the token is cut off
  have cutBehind : ∃ l ls, [(⟨mode, String.ofList (c :: p).reverse⟩ : Lexeme)] = l :: ls
      ∧ p.reverse <+: l.text.toList := ⟨_, [], rfl, by simp⟩
  by_cases inside : mode = .string
  · subst inside
    rw [step_string]
    split_ifs
    · exact .inr cutBehind
    · exact .inl ⟨rfl, rfl⟩
  by_cases quote : c = '"'
  · subst quote
    rw [step_quote (s := ⟨mode, p⟩) inside]
    exact .inr cutHere
  by_cases blank : c = ' '
  · subst blank
    have nonempty : p.isEmpty = false := by simpa using h
    simp only [step, inside, nonempty]
    exact .inr cutHere
  by_cases line : c = '\n'
  · subst line
    rw [step_newline (s := ⟨mode, p⟩) inside]
    exact .inr (cut _)
  cases mode with
  | string => exact absurd rfl inside
  | start =>
    rw [step_start quote blank line]
    split_ifs
    · exact .inl ⟨rfl, rfl⟩
    · exact .inr cutHere
    · exact .inr cutHere
  | number =>
    rw [step_number quote blank line]
    split_ifs
    · exact .inl ⟨rfl, rfl⟩
    · exact .inl ⟨rfl, rfl⟩
    · exact .inr cutHere
    · exact .inl ⟨rfl, rfl⟩
    · exact .inl ⟨rfl, rfl⟩
    · exact .inr cutHere
  | identifier =>
    rw [step_identifier quote blank line]
    split_ifs
    · exact .inl ⟨rfl, rfl⟩
    · exact .inr cutBehind
    · exact .inr cutHere
    · exact .inr cutHere

/-- **The next token begins with what a scan holds**, whatever follows. -/
theorem run_pending {s : Scan} (h : s.pending ≠ []) (cs : List Char) :
    ∃ l ls, (s.run cs).1 ++ (s.run cs).2.flush = l :: ls ∧ s.pending.reverse <+: l.text.toList := by
  induction cs generalizing s with
  | nil =>
    rw [run, List.nil_append, flush_of_ne_nil h]
    exact ⟨_, [], rfl, by simp⟩
  | cons c cs ih =>
    rw [run]
    rcases step_pending h c with ⟨nothing, joined⟩ | ⟨l, ls, cut, begins⟩
    · have holds : (s.step c).2.pending ≠ [] := by
        rw [joined]
        exact List.cons_ne_nil _ _
      obtain ⟨l, ls, later, begins⟩ := ih holds
      rw [nothing, List.nil_append, later]
      refine ⟨l, ls, rfl, List.IsPrefix.trans ?_ begins⟩
      rw [joined, List.reverse_cons]
      exact List.prefix_append _ _
    · rw [cut]
      exact ⟨l, _, rfl, begins⟩

/-- A source that breaks down is read as far as it goes. -/
theorem read_some (s : Scan) (n : Nat) (reason : String) (cs : List Char) :
    s.read (some ⟨n, reason⟩) cs
      = ⟨(s.run (cs.take n)).1 ++ (s.run (cs.take n)).2.flush,
          if n ≤ cs.length then some reason else none⟩ := by
  induction cs generalizing s n with
  | nil => cases n <;> simp [read, run]
  | cons c cs ih =>
    cases n with
    | zero => simp [read, run]
    | succ n => simp [read, run, Breakdown.advance, ih]

end Scan

/-! ## 5. Sources that break down -/

/-- The tokens of a text that was cut off, and those of the whole: all but the last of the first are
in their places, and the last is the beginning of the one in its place. -/
structure AgreesUpToLast (cut whole : List String) : Prop where
  before : ∀ k, k + 1 < cut.length → cut[k]? = whole[k]?
  last : ∀ t ∈ cut.getLast?, t ≠ ""
    ∧ ∃ t', whole[cut.length - 1]? = some t' ∧ t.toList <+: t'.toList

theorem agreesUpToLast_concat {before rest : List String} {t t' : String} (nonempty : t ≠ "")
    (begins : t.toList <+: t'.toList) : AgreesUpToLast (before ++ [t]) (before ++ t' :: rest) where
  before := by
    intro k hk
    have inside : k < before.length := by
      rw [List.length_append, List.length_singleton] at hk
      omega
    rw [List.getElem?_append_left inside, List.getElem?_append_left inside]
  last := by
    intro u hu
    obtain rfl : t = u := by simpa using hu
    exact ⟨nonempty, t', by simp, begins⟩

theorem agreesUpToLast_append {ts : List String} (nonempty : ∀ t ∈ ts, t ≠ "")
    (rest : List String) :
    AgreesUpToLast ts (ts ++ rest) := by
  rcases List.eq_nil_or_concat' ts with rfl | ⟨before, t, rfl⟩
  · constructor
    · intro k hk
      cases hk
    · intro t ht
      cases ht
  · rw [List.append_assoc]
    exact agreesUpToLast_concat (nonempty t (by simp)) List.prefix_rfl

/-- The tokens of a text are those cut off on the way and the one that its end cuts off. -/
theorem tokens_ofList (a : List Char) :
    tokens (String.ofList a)
      = (Scan.initial.run a).1.map (·.text) ++ (Scan.initial.run a).2.flush.map (·.text) := by
  rw [tokens, String.toList_ofList, lexemes, List.map_append]

theorem tokens_ofList_append (a b : List Char) :
    tokens (String.ofList (a ++ b))
      = (Scan.initial.run a).1.map (·.text) ++ (((Scan.initial.run a).2.run b).1
          ++ ((Scan.initial.run a).2.run b).2.flush).map (·.text) := by
  rw [tokens, String.toList_ofList, lexemes, Scan.run_append, List.append_assoc, List.map_append]

/-- **A text that is cut off keeps its tokens**, but perhaps for the end of the last. -/
theorem agreesUpToLast_tokens (a b : List Char) :
    AgreesUpToLast (tokens (String.ofList a)) (tokens (String.ofList (a ++ b))) := by
  have nonempty : ∀ t ∈ tokens (String.ofList a), t ≠ "" := fun t ht => (shape_of_token ht).1
  -- what was cut off before the end of `a` stays; what the scan holds there is the only question
  have first := tokens_ofList a
  have whole := tokens_ofList_append a b
  generalize (Scan.initial.run a).2 = s at first whole
  rw [first] at nonempty
  rw [first, whole]
  by_cases nothing : s.pending = []
  · have flushed : s.flush = [] := by simp [Scan.flush, nothing]
    rw [flushed, List.map_nil, List.append_nil] at nonempty ⊢
    exact agreesUpToLast_append nonempty _
  · obtain ⟨l, ls, later, begins⟩ := Scan.run_pending nothing b
    rw [Scan.flush_of_ne_nil nothing, List.map_singleton] at nonempty ⊢
    rw [later, List.map_cons]
    refine agreesUpToLast_concat (nonempty _ (by simp)) ?_
    rwa [String.toList_ofList]

/-- **What was read before a breakdown stays.**  A source that delivers the first characters of a
text and then breaks down gives its error back, together with the tokens of what it delivered.  All
of them but the last are tokens of the whole text, in the same places, and the last is the
beginning of the one in its place. -/
theorem tokens_before_breakdown (text : List Char) (n : Nat) (reason : String) :
    let delivered := text.take n
    let r := read text (some ⟨delivered.length, reason⟩)
    (r.failure = some reason ∧ r.lexemes.map (·.text) = tokens (String.ofList delivered))
      ∧ AgreesUpToLast (tokens (String.ofList delivered)) (tokens (String.ofList text)) := by
  intro delivered r
  have taken : text.take delivered.length = delivered := by simp [delivered]
  have within : delivered.length ≤ text.length := by simp [delivered]
  have reading : r = ⟨lexemes delivered, some reason⟩ := by
    have all := Scan.initial.read_some delivered.length reason text
    rwa [taken, if_pos within] at all
  refine ⟨⟨?_, ?_⟩, ?_⟩
  · rw [reading]
  · rw [reading, tokens, String.toList_ofList]
  · have agrees := agreesUpToLast_tokens delivered (text.drop n)
    rwa [List.take_append_drop] at agrees

end LineBasic.Token
