/-
# Strings that are printed

PRINT with string literals writes what stands between their quotes, character by character, whatever
that is: blanks, newlines, digits, operators or keywords (`printed_strings`).  Between the literals
there may be blanks, semicolons and commas in any order, or nothing at all.

Each step on the way leaves a literal alone.

* A quote, a semicolon or a comma cuts off what stands before it (`StartsLexeme`), and a closed
  string is one lexeme.  So the tokens are known however close the literals stand
  (`tokens_printText`).
* Every token is the keyword, a separator or a string.  None of them can be in a window, so nothing
  is folded (`statementNodes_printText`).
* A separator stands for nothing, and a literal without its quotes is its content
  (`unquote_literal`).
-/
import Mathlib
import LineBasic.Proofs.ExpressionInLine
import LineBasic.Proofs.MapEntries

namespace LineBasic

open Fold (Inert foldAll)
open Source (classify kindOf printWord statementNodes)

/-! ## 1. Literals with separators -/

/-- A character that may stand between the arguments of PRINT. -/
def isSeparator (c : Char) : Bool := c = ' ' || c = ';' || c = ','

/-- A string to be printed, with the separators before its literal. -/
structure SpacedLiteral where
  gap : List Char
  content : String
  separators : ∀ c ∈ gap, isSeparator c
  quoteFree : '"' ∉ content.toList

namespace SpacedLiteral

/-- The string in quotes. -/
def literal (a : SpacedLiteral) : String := "\"" ++ a.content ++ "\""

/-- The separators and the literal. -/
def text (a : SpacedLiteral) : String := String.ofList a.gap ++ a.literal

/-- The tokens of a gap: its semicolons and commas. -/
def gapTokens (gap : List Char) : List String :=
  (gap.filter (· ≠ ' ')).map fun c => String.ofList [c]

/-- The tokens of the separators and the literal. -/
def tokens (a : SpacedLiteral) : List String := gapTokens a.gap ++ [a.literal]

theorem toList_literal (a : SpacedLiteral) :
    a.literal.toList = '"' :: (a.content.toList ++ ['"']) := by
  simp [literal]

theorem separator_of_mem {gap : List Char} (separators : ∀ c ∈ gap, isSeparator c) {t : String}
    (h : t ∈ gapTokens gap) : t = ";" ∨ t = "," := by
  obtain ⟨c, hc, rfl⟩ := List.mem_map.mp h
  obtain ⟨mem, notBlank⟩ := List.mem_filter.mp hc
  have separator := separators c mem
  simp only [isSeparator, Bool.or_eq_true, decide_eq_true_eq] at separator notBlank
  rcases separator with (rfl | rfl) | rfl
  · exact absurd rfl notBlank
  · exact .inl rfl
  · exact .inr rfl

theorem cases_of_mem {args : List SpacedLiteral} {t : String} (h : t ∈ args.flatMap (·.tokens)) :
    (t = ";" ∨ t = ",") ∨ ∃ a ∈ args, t = a.literal := by
  obtain ⟨a, ha, ht⟩ := List.mem_flatMap.mp h
  rcases List.mem_append.mp ht with gap | literal
  · exact .inl (separator_of_mem a.separators gap)
  · exact .inr ⟨a, ha, List.mem_singleton.mp literal⟩

end SpacedLiteral

/-- The text of a PRINT statement with string literals. -/
def printText (args : List SpacedLiteral) : String :=
  "PRINT" ++ String.join (args.map SpacedLiteral.text)

/-! ## 2. Their tokens -/

namespace Token

/-- Outside a string, the character cuts off what a scan holds and begins anew. -/
def StartsLexeme (c : Char) : Prop :=
  ∃ t : Scan, ∀ s : Scan, s.mode ≠ .string → s.step c = (s.flush, t)

theorem startsLexeme_quote : StartsLexeme '"' := ⟨_, fun _ hs => Scan.step_quote hs⟩

theorem startsLexeme_separator {c : Char} (h : c = ';' ∨ c = ',') : StartsLexeme c := by
  refine ⟨⟨.start, [c]⟩, fun s hs => ?_⟩
  rcases h with rfl | rfl
  · simp [Scan.step, hs, isExponentMark]
  · simp [Scan.step, hs, isExponentMark]

/-- **A character that starts a lexeme separates** what stands before it from itself. -/
theorem tokens_append_startsLexeme {a : String} (h : OutsideString a.toList) {c : Char}
    (hc : StartsLexeme c) {b : String} (hb : b.toList.head? = some c) :
    tokens (a ++ b) = tokens a ++ tokens b := by
  obtain ⟨t, ht⟩ := hc
  have anew : Scan.initial.step c = ([], t) := ht Scan.initial (by simp [Scan.initial])
  obtain ⟨rest, hrest⟩ := List.head?_eq_some_iff.mp hb
  rw [tokens, tokens, tokens, ← List.map_append, String.toList_append, hrest]
  simp only [lexemes, Scan.run_append, Scan.run, ht _ h, anew, List.nil_append, List.append_assoc]

/-- A closed string is one token, whatever follows. -/
theorem tokens_literal_append (a : SpacedLiteral) (rest : String) :
    tokens (a.literal ++ rest) = a.literal :: tokens rest := by
  rw [tokens, String.toList_append, a.toList_literal, lexemes, Scan.run_append,
    Scan.run_literal a.quoteFree, ← a.toList_literal, String.ofList_toList]
  rfl

theorem outsideString_empty : OutsideString "".toList := by
  simp [OutsideString, Scan.run, Scan.initial]

/-- The semicolons and commas of a gap are tokens, each by itself. -/
theorem tokens_gap_append {gap : List Char} (separators : ∀ c ∈ gap, isSeparator c) {a b : String}
    (ha : OutsideString a.toList) (hb : b.toList.head? = some '"') :
    tokens (a ++ (String.ofList gap ++ b))
      = tokens a ++ (SpacedLiteral.gapTokens gap ++ tokens b) := by
  induction gap generalizing a with
  | nil =>
    have nothing : String.ofList [] ++ b = b := String.toList_injective (by simp)
    rw [nothing, tokens_append_startsLexeme ha startsLexeme_quote hb]
    rfl
  | cons c gap ih =>
    have later := fun d hd => separators d (List.mem_cons_of_mem c hd)
    have first : String.ofList (c :: gap) ++ b = String.ofList [c] ++ (String.ofList gap ++ b) :=
      String.toList_injective (by simp)
    have separator := separators c List.mem_cons_self
    simp only [isSeparator, Bool.or_eq_true, decide_eq_true_eq, or_assoc] at separator
    rw [first]
    rcases separator with rfl | symbol
    · have rest := ih later (a := "") outsideString_empty
      rw [String.empty_append] at rest
      have spelled : a ++ (String.ofList [' '] ++ (String.ofList gap ++ b))
          = a ++ " " ++ (String.ofList gap ++ b) := String.toList_injective (by simp)
      rw [spelled, tokens_append_blank ha, rest]
      rfl
    · have token : IsToken (String.ofList [c]).toList := by
        rw [String.toList_ofList]
        refine .symbol ?_
        rcases symbol with rfl | rfl
        · decide
        · decide
      have kept : SpacedLiteral.gapTokens (c :: gap)
          = String.ofList [c] :: SpacedLiteral.gapTokens gap := by
        rcases symbol with rfl | rfl
        · rfl
        · rfl
      rw [tokens_append_startsLexeme ha (startsLexeme_separator symbol) (by simp),
        ih later (outsideString_token token), tokens_token token, kept]
      rfl

theorem tokens_append_literals {a : String} (h : OutsideString a.toList)
    (args : List SpacedLiteral) :
    tokens (a ++ String.join (args.map SpacedLiteral.text))
      = tokens a ++ args.flatMap (·.tokens) := by
  induction args generalizing a with
  | nil => simp
  | cons x args ih =>
    have rest := ih (a := "") outsideString_empty
    rw [String.empty_append] at rest
    have spelled : String.join ((x :: args).map SpacedLiteral.text)
        = String.ofList x.gap ++ (x.literal ++ String.join (args.map SpacedLiteral.text)) :=
      String.toList_injective (by simp [SpacedLiteral.text])
    rw [spelled, tokens_gap_append x.separators h (by simp [x.toList_literal]),
      tokens_literal_append, rest, List.flatMap_cons, SpacedLiteral.tokens, List.append_assoc]
    rfl

/-- **The tokens of PRINT with literals** are the keyword, the separators and the literals. -/
theorem tokens_printText (args : List SpacedLiteral) :
    tokens (printText args) = "PRINT" :: args.flatMap (·.tokens) := by
  rw [printText, tokens_append_literals (outsideString_token isToken_print),
    tokens_token isToken_print]
  rfl

end Token

/-! ## 3. Their nodes -/

namespace Source

/-- Nodes that can be in no window stay as they are. -/
theorem nodes_foldAll_of_inert {nodes : List Node} (h : ∀ n ∈ nodes, Inert n) :
    (foldAll nodes).nodes = nodes := by
  induction nodes with
  | nil => exact Fold.nodes_foldAll_of_foldOnce_eq_none (by simp [Fold.AllKnown]) fun _ => rfl
  | cons n nodes ih =>
    have rest := fun m hm => h m (List.mem_cons_of_mem n hm)
    rw [Fold.nodes_foldAll_cons_inert (h n List.mem_cons_self) fun m hm => (rest m hm).known,
      ih rest]

theorem classify_literal (a : SpacedLiteral) :
    classify false a.literal = .leaf .string a.literal := by
  have last : a.literal.toList.getLast? = some '"' := by
    rw [a.toList_literal, ← List.cons_append, List.getLast?_concat]
  have quoted : isStringLiteral a.literal := by
    rw [isStringLiteral, last, a.toList_literal]
    rfl
  rw [classify, kindOf, if_pos quoted]

theorem inert_literal (a : SpacedLiteral) : Inert (classify false a.literal) := by
  rw [classify_literal]
  exact ⟨trivial, rfl, rfl⟩

theorem classify_separator {t : String} (h : t = ";" ∨ t = ",") :
    classify false t = .leaf .symbol t := by
  have kind : kindOf false t = .symbol := by
    rcases h with rfl | rfl
    · decide
    · decide
  rw [classify, kind]

theorem inert_separator {t : String} (h : t = ";" ∨ t = ",") : Inert (classify false t) := by
  rw [classify_separator h]
  rcases h with rfl | rfl
  · exact ⟨trivial, rfl, rfl⟩
  · exact ⟨trivial, rfl, rfl⟩

/-- Behind PRINT, separators and literals stay as they are. -/
theorem statementNodes_printText (args : List SpacedLiteral) :
    statementNodes ("PRINT" :: args.flatMap (·.tokens))
      = printWord :: (args.flatMap (·.tokens)).map (classify false) := by
  refine nodes_foldAll_of_inert fun n hn => ?_
  rcases List.mem_cons.mp hn with rfl | hn
  · exact inert_printWord
  · obtain ⟨t, ht, rfl⟩ := List.mem_map.mp hn
    rcases SpacedLiteral.cases_of_mem ht with separator | ⟨a, -, rfl⟩
    · exact inert_separator separator
    · exact inert_literal a

end Source

/-! ## 4. What they write -/

namespace Statement

/-- A literal without its quotes is its content. -/
theorem unquote_literal (a : SpacedLiteral) : unquote a.literal = a.content := by
  simp [unquote, a.toList_literal]

variable (s : Store)

theorem arguments_gap {ts : List String} (h : ∀ t ∈ ts, t = ";" ∨ t = ",") (nodes : List Node) :
    arguments s (ts.map (classify false) ++ nodes) = arguments s nodes := by
  induction ts with
  | nil => rfl
  | cons t ts ih =>
    have separator := h t List.mem_cons_self
    rw [List.map_cons, List.cons_append, Source.classify_separator separator,
      ← ih fun u hu => h u (List.mem_cons_of_mem t hu)]
    rcases separator with rfl | rfl
    · rfl
    · rfl

theorem arguments_literal (a : SpacedLiteral) (nodes : List Node) :
    (arguments s (classify false a.literal :: nodes)).result
      = (arguments s nodes).result.map (a.content :: ·) := by
  have asked : arguments s (classify false a.literal :: nodes)
      = arguments s nodes >>= fun texts => pure (unquote a.literal :: texts) := by
    rw [Source.classify_literal]
    rfl
  rw [asked, Traced.result_bind, unquote_literal]
  cases (arguments s nodes).result <;> rfl

/-- **Literals stand for their contents.** -/
theorem arguments_literals (args : List SpacedLiteral) :
    (arguments s ((args.flatMap (·.tokens)).map (classify false))).result
      = .ok (args.map (·.content)) := by
  induction args with
  | nil => rfl
  | cons a args ih =>
    have gap : ∀ t ∈ SpacedLiteral.gapTokens a.gap, t = ";" ∨ t = "," := fun t ht =>
      SpacedLiteral.separator_of_mem a.separators ht
    rw [List.flatMap_cons, SpacedLiteral.tokens, List.append_assoc, List.map_append,
      arguments_gap s gap, List.singleton_append, List.map_cons, arguments_literal, ih]
    rfl

theorem effect_printText (immediate : Bool) (args : List SpacedLiteral) :
    (effect s immediate (printWord :: (args.flatMap (·.tokens)).map (classify false))).result
      = .ok (.write (" ".intercalate (args.map (·.content)) ++ "\n")) := by
  have asked : effect s immediate (printWord :: (args.flatMap (·.tokens)).map (classify false))
      = arguments s ((args.flatMap (·.tokens)).map (classify false))
        >>= fun texts => pure (Effect.write (" ".intercalate texts ++ "\n")) := rfl
  rw [asked, Traced.result_bind, arguments_literals]
  rfl

end Statement

namespace Interpreter

/-- What PRINT with literals does: it writes the strings on a line, and that is all. -/
def printedLine (i : Interpreter) (args : List SpacedLiteral) : Turn (Option Error) :=
  ⟨i, [" ".intercalate (args.map (·.content)) ++ "\n"], [], none⟩

theorem quiet_printText (i : Interpreter) (immediate : Bool) (args : List SpacedLiteral) :
    (i.executeStatement {} immediate
        (printWord :: (args.flatMap (·.tokens)).map (classify false))).quiet
      = i.printedLine args := by
  rw [executeStatement, carryOut, Statement.effect_printText]
  rfl

theorem isStatementText_printText (args : List SpacedLiteral) :
    IsStatementText (printText args) := by
  refine isStatementText_of_tokens (Token.tokens_printText args) ?_ (by decide)
  refine List.not_mem_cons_of_ne_of_not_mem (by decide) fun mem => ?_
  rcases SpacedLiteral.cases_of_mem mem with separator | ⟨a, -, same⟩
  · exact absurd separator (by decide)
  · have first := congrArg String.toList same
    rw [a.toList_literal] at first
    cases first

theorem quiet_enter_printText (i : Interpreter) (args : List SpacedLiteral) :
    (i.enter {} (printText args)).quiet = (i.printedLine args).quiet := by
  rw [i.enter_immediate {} (isStatementText_printText args), Turn.quiet_after,
    Token.tokens_printText, Source.statementNodes_printText, i.quiet_printText]
  rfl

/-- A line with nothing beside it is all that is listed. -/
theorem entries_insert_alone {program : SortedMap UInt16 Source.Line} {n : UInt16}
    (alone : ∀ m, m ≠ n → program.find? m = none) (l : Source.Line) :
    (program.insert n l).entries = [(n, l)] := by
  refine SortedMap.entries_eq (List.pairwise_singleton _ _) fun m l' => ?_
  rw [SortedMap.find?_insert, List.mem_singleton, Prod.mk.injEq]
  by_cases same : m = n
  · subst same
    simp [eq_comm]
  · have other : compare m n ≠ .eq := fun h => same (Std.LawfulEqCmp.eq_of_compare h)
    simp [same, other, alone m same]

/-- The program that holds one PRINT with literals writes its line. -/
theorem run_printText (i : Interpreter) (args : List SpacedLiteral) (n : UInt16) (number : String)
    (held : i.program.entries = [(n, storedLine number (printText args))]) :
    (i.run {}).quiet = (i.printedLine args).quiet := by
  have statement : (storedLine number (printText args)).nodes.drop 1
      = printWord :: (args.flatMap (·.tokens)).map (classify false) := by
    rw [storedLine, Token.tokens_printText, Source.statementNodes_printText]
    rfl
  have executed := i.quiet_printText false args
  obtain ⟨interpreter, writes, answer⟩ :=
    runLines_singleton {} i n (storedLine number (printText args))
  rw [statement] at interpreter writes answer
  obtain ⟨same, written, passed⟩ := Turn.quiet_eq_iff (u := i.printedLine args) |>.mp executed
  rw [run, held, Turn.quiet_eq_iff]
  exact ⟨interpreter.trans same, writes.trans written, by rw [answer, passed]; rfl⟩

/-- **Strings are printed as they are.**  PRINT with string literals, however they are separated,
writes the strings on one line, with a blank between two of them, and changes nothing.  With a
number in front it is stored, and a run of the program that holds nothing else writes that line and
changes no variable. -/
theorem printed_strings (i : Interpreter) (args : List SpacedLiteral) :
    let line := " ".intercalate (args.map (·.content)) ++ "\n"
    let entered := i.enter {} (printText args)
    (entered.writes = [line] ∧ entered.answer = none ∧ entered.interpreter = i)
      ∧ ∀ (number : String) (n : UInt16), LineNumber.IsDecimal number n →
        (∀ m, m ≠ n → i.program.find? m = none) →
        let stored := i.enter {} (number ++ " " ++ printText args)
        let ran := stored.interpreter.run {}
        (stored.writes = [] ∧ stored.answer = none ∧ stored.interpreter.store = i.store)
          ∧ ran.writes = [line] ∧ ran.answer = none ∧ ran.interpreter.store = i.store := by
  intro line entered
  constructor
  · obtain ⟨interpreter, writes, answer⟩ := Turn.quiet_eq_iff.mp (i.quiet_enter_printText args)
    exact ⟨writes, answer, interpreter⟩
  · intro number n decimal alone stored ran
    have hstored : stored = _ := i.enter_stored {} decimal (isStatementText_printText args)
    have held : stored.interpreter.program.entries = [(n, storedLine number (printText args))] := by
      rw [hstored]
      exact entries_insert_alone alone _
    have hran : ran.quiet = _ := stored.interpreter.run_printText args n number held
    clear_value ran stored
    obtain ⟨interpreter, writes, answer⟩ := Turn.quiet_eq_iff.mp hran
    rw [interpreter, hstored]
    exact ⟨⟨rfl, rfl, rfl⟩, writes, answer, rfl⟩

/-- Literals side by side and apart, one of them empty and one with a newline and a keyword in
it. -/
theorem printed_strings_packed :
    let args : List SpacedLiteral :=
      [⟨[], "1 + (2", by simp, by simp⟩, ⟨[], "", by simp, by simp⟩,
        ⟨[',', ' ', ';'], "a\nPRINT b;", by simp [isSeparator], by simp⟩]
    printText args = "PRINT\"1 + (2\"\"\", ;\"a\nPRINT b;\""
      ∧ ((new 10).enter {} (printText args)).writes = ["1 + (2  a\nPRINT b;\n"]
      ∧ LineNumber.IsDecimal "007" 7 ∧ (∀ m, m ≠ 7 → (new 10).program.find? m = none)
      ∧ (((new 10).enter {} ("007 " ++ printText args)).interpreter.run {}).writes
        = ["1 + (2  a\nPRINT b;\n"] := by
  intro args
  have decimal : LineNumber.IsDecimal "007" 7 := ⟨by decide, by simp, by decide⟩
  have alone : ∀ m : UInt16, m ≠ 7 → (new 10).program.find? m = none := fun _ _ => rfl
  obtain ⟨⟨writes, -⟩, stored⟩ := printed_strings (new 10) args
  obtain ⟨-, ran, -⟩ := stored "007" 7 decimal alone
  exact ⟨by decide, writes.trans rfl, decimal, alone, ran.trans rfl⟩

end Interpreter

end LineBasic
