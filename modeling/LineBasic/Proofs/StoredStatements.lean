/-
# Stored statements

A statement can be entered at once, or with a number in front and be run later.  The two ways
differ in how the line is read, in where a missing `LET` comes from and in who reports an error,
but not in what they do: `run_stored_eq_enter` compares the output, the variables and the error for
every text of one statement, well formed or not.
-/
import Mathlib
import LineBasic.Proofs.Execution
import LineBasic.Proofs.LineNumbers
import LineBasic.Proofs.TokenLanguage

namespace LineBasic

open Source (statementNodes completed)

/-! ## 1. Texts of one statement -/

/-- The text of one statement, in whatever order its tokens are: there is a token, none is a
newline, and the first is not made of digits only. -/
structure IsStatementText (text : String) : Prop where
  nonempty : Token.tokens text ≠ []
  oneLine : Token.newline ∉ Token.tokens text
  unnumbered : ∀ t ∈ (Token.tokens text).head?, Source.isAllDigits t = false

namespace LineNumber

variable {number : String} {n : UInt16}

theorem IsDecimal.isNumeral (h : IsDecimal number n) : Token.IsNumeral number.toList := by
  obtain ⟨nonempty, digits, -⟩ := h
  refine Token.isNumeral_of_forall nonempty ?_
  intro c hc
  simp [Token.opensNumeral, digits c hc]

theorem IsDecimal.isAllDigits (h : IsDecimal number n) : Source.isAllDigits number := by
  obtain ⟨nonempty, digits, -⟩ := h
  simp only [Source.isAllDigits, Bool.and_eq_true, Bool.not_eq_true', List.isEmpty_eq_false_iff,
    List.all_eq_true]
  exact ⟨nonempty, fun c hc => Text.isDigit_of_isDigit (digits c hc)⟩

/-- A number and a blank are one token before the tokens of what follows. -/
theorem IsDecimal.tokens_append (h : IsDecimal number n) (text : String) :
    Token.tokens (number ++ " " ++ text) = number :: Token.tokens text :=
  Token.tokens_token_append (.numeral h.isNumeral) text

end LineNumber

/-! ## 2. The two lines -/

/-- The line of a statement with a number in front. -/
def storedLine (number text : String) : Source.Line :=
  ⟨.leaf .lineNumber number :: completed (statementNodes (Token.tokens text))⟩

namespace IsStatementText

variable {text : String} (h : IsStatementText text)
include h

theorem lines_immediate : Source.lines text = [⟨statementNodes (Token.tokens text)⟩] := by
  obtain ⟨nonempty, oneLine, unnumbered⟩ := h
  rw [Source.lines_eq, Source.segments_of_notMem oneLine nonempty]
  cases hts : Token.tokens text with
  | nil => exact absurd hts nonempty
  | cons t ts =>
    have first := Source.kindOf_true_ne_lineNumber (unnumbered t (by simp [hts]))
    rw [List.map_singleton, ← Source.nodes_readLine_unnumbered first]

theorem lines_stored {number : String} {n : UInt16} (hn : LineNumber.IsDecimal number n) :
    Source.lines (number ++ " " ++ text) = [storedLine number text] := by
  have first := Source.kindOf_true_of_isAllDigits hn.isAllDigits
  have oneLine : Token.newline ∉ number :: Token.tokens text := by
    refine List.not_mem_cons_of_ne_of_not_mem ?_ h.oneLine
    rintro rfl
    exact absurd (hn.digits '\n' (by simp [Token.newline])) (by decide)
  have nodes := Source.nodes_readLine_numbered first (Token.tokens text)
  rw [Source.classify, first] at nodes
  rw [Source.lines_eq, hn.tokens_append, Source.segments_of_notMem oneLine (by simp),
    List.map_singleton, storedLine, ← nodes]

end IsStatementText

/-! ## 3. Storing, running and executing one line -/

namespace Interpreter

variable (out : Stream) (i : Interpreter)

theorem enterLines_singleton (l : Source.Line) : i.enterLines out [l] = i.enterLine out l := by
  rw [enterLines]
  split
  · rfl
  · rename_i h
    simp [Turn.andThen, enterLines, idle, ← h]

theorem runLines_singleton (n : UInt16) (l : Source.Line) :
    (i.runLines out [(n, l)]).interpreter
        = (i.executeStatement out false (l.nodes.drop 1)).interpreter
      ∧ (i.runLines out [(n, l)]).writes = (i.executeStatement out false (l.nodes.drop 1)).writes
      ∧ (i.runLines out [(n, l)]).answer
        = (i.executeStatement out false (l.nodes.drop 1)).answer.map (Error.atLine n) := by
  simp only [runLines]
  split
  · rename_i h
    simp only [Turn.andThen, idle, id_eq, List.append_nil, h, Option.map_none, and_self]
  · rename_i h
    simp only [h, Option.map_some, and_self]

variable {text : String}

theorem enter_immediate (htext : IsStatementText text) :
    i.enter out text = (i.executeStatement out true (statementNodes (Token.tokens text))).after
      (Source.read text).notices := by
  have nonempty := Source.statementNodes_ne_nil htext.nonempty
  have parted : parts ⟨statementNodes (Token.tokens text)⟩
      = .ok ⟨none, statementNodes (Token.tokens text)⟩ := by
    cases hs : statementNodes (Token.tokens text) with
    | nil => exact absurd hs nonempty
    | cons m rest =>
      have mem : m ∈ statementNodes (Token.tokens text) := by simp [hs]
      exact parts_unnumbered (Source.known_statementNodes mem) (Source.kind?_ne_lineNumber mem) rest
  rw [enter_eq, htext.lines_immediate, enterLines_singleton,
    enterLine_immediate out i parted nonempty]

theorem enter_stored {number : String} {n : UInt16} (hn : LineNumber.IsDecimal number n)
    (htext : IsStatementText text) :
    i.enter out (number ++ " " ++ text)
      = ⟨{ i with program := i.program.insert n (storedLine number text) }, [],
          (Source.read (number ++ " " ++ text)).notices
            ++ [noticeOf .debug s!"storing line {n}"], none⟩ := by
  have nonempty := Source.completed_ne_nil (Source.statementNodes_ne_nil htext.nonempty)
  have parted : parts (storedLine number text) = .ok ⟨some n, _⟩ :=
    parts_numbered (LineNumber.parse_eq_ok_iff.mpr hn) _
  rw [enter_eq, htext.lines_stored hn, enterLines_singleton, enterLine_stored out i parted nonempty]
  rfl

/-- **A stored statement does what the immediate one does.**  A number in front of the text of a
statement stores it, and nothing else happens; the run writes the same, leaves the same variables
and ends in the same error, with the line number on it. -/
theorem run_stored_eq_enter (s : Store) (program : SortedMap UInt16 Source.Line)
    {number : String} {n : UInt16} (hn : LineNumber.IsDecimal number n)
    (htext : IsStatementText text) :
    let stored := enter out ⟨.empty, s⟩ (number ++ " " ++ text)
    let ran := stored.interpreter.run out
    let entered := enter out ⟨program, s⟩ text
    (stored.answer = none ∧ stored.writes = [] ∧ stored.interpreter.store = s)
      ∧ ran.writes = entered.writes
      ∧ ran.interpreter.store = entered.interpreter.store
      ∧ ran.answer = entered.answer.map (Error.atLine n) := by
  intro stored ran entered
  let held : SortedMap UInt16 Source.Line := SortedMap.empty.insert n (storedLine number text)
  have hstored : stored = _ := enter_stored out ⟨.empty, s⟩ hn htext
  have hran : ran = runLines out ⟨held, s⟩ [(n, storedLine number text)] := by
    simp only [ran, hstored]
    rfl
  have hentered : entered = _ := enter_immediate out ⟨program, s⟩ htext
  -- what is behind the number asks for what the statement asked for, whatever program is held
  have same : executeStatement out ⟨held, s⟩ false ((storedLine number text).nodes.drop 1)
      = (executeStatement out ⟨program, s⟩ true (statementNodes (Token.tokens text))).withProgram
          held := by
    rw [← executeStatement_withProgram]
    exact congrArg (carryOut out _) (Statement.effect_completed s _)
  obtain ⟨hinterpreter, hwrites, hanswer⟩ :=
    runLines_singleton out ⟨held, s⟩ n (storedLine number text)
  rw [same] at hinterpreter hwrites hanswer
  rw [hran, hentered]
  refine ⟨?_, hwrites, ?_, hanswer⟩
  · rw [hstored]
    exact ⟨rfl, rfl, rfl⟩
  · rw [hinterpreter]
    rfl

/-- An assignment that leaves out its `LET`, with an error behind it. -/
theorem run_stored_eq_enter_without_equals :
    ((enter {} (new 10) "010 X Y").interpreter.run {}).answer
      = some (.atLine 10 (.missingEquals (.scalar "X"))) := by
  have hn : LineNumber.IsDecimal "010" 10 := ⟨by decide, by simp, by decide⟩
  have htext : IsStatementText "X Y" := ⟨by decide, by decide, by decide⟩
  obtain ⟨-, -, -, answer⟩ := run_stored_eq_enter {} (.empty 10) .empty hn htext
  exact answer.trans (by cbv)

end Interpreter

end LineBasic
