/-
# The characters of tokens

Two facts about a scan that do not depend on what tokens look like.

* **Quotes decide whether a scan is inside a string** (`Scan.mode_run`): each of them turns it, and
  no other character does.  So a text ends outside a string iff the number of its quotes is even
  (`outsideString_iff`).
* **What is read is kept in order** (`Scan.textOf_run`): the tokens cut off and the lexeme under
  construction are the text itself, less the blanks outside strings.

In particular a text without a newline has no newline token (`newline_notMem_tokens`).
-/
import LineBasic.Proofs.TokenLanguage
import Mathlib.Algebra.Group.Nat.Even

namespace LineBasic.Token

/-! ## 1. Quotes -/

namespace Scan

/-- Outside a string, a character that is no quote leaves a scan outside. -/
theorem mode_step_plain {s : Scan} {c : Char} (hs : s.mode ≠ .string) (hc : c ≠ '"') :
    (s.step c).2.mode ≠ .string := by
  simp only [step, hs, hc, push, initial, if_false]
  split_ifs <;> simp [hs]

/-- A quote turns a scan from outside a string to inside and back; nothing else does. -/
theorem mode_step (s : Scan) (c : Char) :
    (s.step c).2.mode = .string ↔ (s.mode = .string ↔ c ≠ '"') := by
  obtain ⟨mode, p⟩ := s
  by_cases inside : mode = .string
  · subst inside
    rw [step_string]
    split_ifs with quote <;> simp [quote, initial]
  · by_cases quote : c = '"'
    · subst quote
      simp [step_quote (s := ⟨mode, p⟩) inside, inside]
    · have := mode_step_plain (s := ⟨mode, p⟩) inside quote
      simp [this, inside, quote]

theorem mode_run (s : Scan) (cs : List Char) :
    (s.run cs).2.mode = .string ↔ (s.mode = .string ↔ Even (cs.count '"')) := by
  induction cs generalizing s with
  | nil => simp [run]
  | cons c cs ih =>
    rw [run, ih, mode_step]
    by_cases quote : c = '"'
    · subst quote
      rw [List.count_cons_self, Nat.even_add_one]
      tauto
    · rw [List.count_cons_of_ne quote]
      tauto

end Scan

/-- **A text ends outside a string iff the number of its quotes is even.** -/
theorem outsideString_iff {cs : List Char} : OutsideString cs ↔ Even (cs.count '"') := by
  simp [OutsideString, Scan.mode_run, Scan.initial]

/-! ## 2. Characters -/

/-- A text less the blanks outside strings; `inside` says that it begins inside one. -/
def unspaced : Bool → List Char → List Char
  | _, [] => []
  | inside, c :: cs =>
    (if c = ' ' && !inside then [] else [c]) ++ unspaced (inside ^^ (c = '"')) cs

theorem unspaced_sublist (inside : Bool) (cs : List Char) : (unspaced inside cs).Sublist cs := by
  induction cs generalizing inside with
  | nil => exact .slnil
  | cons c cs ih =>
    rw [unspaced]
    split_ifs
    · exact (ih _).cons c
    · exact (ih _).cons_cons c

namespace Scan

/-- What has been read: the tokens cut off and the lexeme under construction. -/
def textOf (r : List Lexeme × Scan) : List Char :=
  r.1.flatMap (·.text.toList) ++ r.2.pending.reverse

@[simp] theorem flatMap_flush (s : Scan) :
    s.flush.flatMap (·.text.toList) = s.pending.reverse := by
  unfold flush
  split_ifs with h
  · simp_all
  · simp

/-- One character is kept, unless it is a blank outside a string. -/
theorem textOf_step (s : Scan) (c : Char) :
    textOf (s.step c) = s.pending.reverse ++ unspaced (s.mode = .string) [c] := by
  obtain ⟨mode, p⟩ := s
  by_cases inside : mode = .string
  · subst inside
    rw [step_string]
    split_ifs <;> simp [textOf, unspaced, initial]
  by_cases quote : c = '"'
  · subst quote
    simp [step_quote (s := ⟨mode, p⟩) inside, unspaced, textOf]
  by_cases blank : c = ' '
  · subst blank
    by_cases nothing : p = [] <;> simp [step, inside, nothing, unspaced, textOf, initial]
  have kept : unspaced (mode = .string) [c] = [c] := by simp [unspaced, blank]
  rw [kept]
  by_cases line : c = '\n'
  · subst line
    simp [step_newline (s := ⟨mode, p⟩) inside, textOf, newline, initial]
  cases mode with
  | string => exact absurd rfl inside
  | start =>
    rw [step_start quote blank line]
    split_ifs <;> simp [textOf]
  | number =>
    rw [step_number quote blank line]
    split_ifs <;> simp [textOf]
  | identifier =>
    rw [step_identifier quote blank line]
    split_ifs <;> simp [textOf, initial]

/-- **What is read is kept in order**, less the blanks outside strings. -/
theorem textOf_run (s : Scan) (cs : List Char) :
    textOf (s.run cs) = s.pending.reverse ++ unspaced (s.mode = .string) cs := by
  induction cs generalizing s with
  | nil => simp [textOf, run, unspaced]
  | cons c cs ih =>
    have turned :
        decide ((s.step c).2.mode = .string) = (decide (s.mode = .string) ^^ (c = '"')) := by
      by_cases inside : s.mode = .string <;> by_cases quote : c = '"' <;>
        simp [mode_step, inside, quote]
    have now := textOf_step s c
    rw [unspaced, unspaced, List.append_nil] at now
    calc textOf (s.run (c :: cs))
        = (s.step c).1.flatMap (·.text.toList) ++ textOf ((s.step c).2.run cs) := by
          simp [textOf, run]
      _ = textOf (s.step c) ++ unspaced (s.mode = .string ^^ (c = '"')) cs := by
          rw [ih, turned, textOf, List.append_assoc]
      _ = s.pending.reverse ++ unspaced (s.mode = .string) (c :: cs) := by
          rw [now, List.append_assoc, unspaced]

end Scan

/-- **The tokens of a text are its characters in order**, less the blanks outside strings. -/
theorem flatMap_tokens (source : String) :
    (tokens source).flatMap String.toList = unspaced false source.toList := by
  have all := Scan.textOf_run .initial source.toList
  simp only [Scan.textOf, Scan.initial, List.reverse_nil, List.nil_append] at all
  simp only [tokens, lexemes, List.flatMap_map, List.flatMap_append, Scan.flatMap_flush]
  exact all

/-- A character of a token is a character of the text. -/
theorem mem_of_mem_tokens {source token : String} (h : token ∈ tokens source) {c : Char}
    (hc : c ∈ token.toList) : c ∈ source.toList := by
  refine (unspaced_sublist false source.toList).subset ?_
  rw [← flatMap_tokens]
  exact List.mem_flatMap.mpr ⟨token, h, hc⟩

theorem newline_notMem_tokens {source : String} (h : '\n' ∉ source.toList) :
    newline ∉ tokens source :=
  fun mem => h (mem_of_mem_tokens mem (by simp [newline]))

end LineBasic.Token
