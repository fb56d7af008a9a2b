/-
# Line ends

A program file is normalized when it is read: each carriage return that stands before a newline is
dropped.  For a session it is normalized once more when the session takes it in.  The second time is
not idle.  Of two carriage returns before a newline the first time drops one and the second time the
other, so **normalizing twice is normalizing once iff there is no newline with two carriage returns
before it** (`normalizeLineEnds_twice_iff`).

What is left of a carriage return is never overlooked: the tokens of a text hold all of them, and so
do the lines that are made of the tokens (`sum_returns_lines`).  Hence a session takes in the lines
that `run` takes in exactly for files without such a newline, and then starts with the same
interpreter, after the same warnings and the same output (`session_starts_alike`).
-/
import LineBasic.CommandLine.Invocation
import LineBasic.Proofs.ParsedTrees
import LineBasic.Proofs.TokenText

namespace LineBasic

/-! ## 1. Normalizing -/

namespace Text

/-- A carriage return and a newline. -/
def lineEnd : List Char := ['\r', '\n']

/-- Two carriage returns and a newline. -/
def doubledLineEnd : List Char := ['\r', '\r', '\n']

theorem lineEnd_infix_cons {c : Char} {cs : List Char} :
    lineEnd <:+: c :: cs ↔ (c = '\r' ∧ cs.head? = some '\n') ∨ lineEnd <:+: cs := by
  rw [List.infix_cons_iff, lineEnd, List.cons_prefix_cons]
  cases cs with
  | nil => simp
  | cons d ds => simp [List.cons_prefix_cons, eq_comm]

theorem doubledLineEnd_infix_cons {c : Char} {cs : List Char} :
    doubledLineEnd <:+: c :: cs ↔ (c = '\r' ∧ lineEnd <+: cs) ∨ doubledLineEnd <:+: cs := by
  rw [List.infix_cons_iff, doubledLineEnd, List.cons_prefix_cons, ← lineEnd, @eq_comm _ '\r']

/-- A normalized text begins with a newline iff the text begins with the end of a line. -/
theorem head?_normalizeLineEnds (cs : List Char) :
    (normalizeLineEnds cs).head? = some '\n' ↔ cs.head? = some '\n' ∨ lineEnd <+: cs := by
  fun_cases normalizeLineEnds cs with
  | case1 rest => simp [lineEnd]
  | case2 c rest other =>
    have notEnd : ¬ lineEnd <+: c :: rest := by
      rintro ⟨behind, h⟩
      obtain ⟨rfl, rfl⟩ := List.cons.inj h
      exact other behind rfl rfl
    simp [notEnd]
  | case3 => simp [lineEnd]

/-- **Normalizing makes a line end only out of a doubled one.** -/
theorem lineEnd_infix_normalizeLineEnds (cs : List Char) :
    lineEnd <:+: normalizeLineEnds cs ↔ doubledLineEnd <:+: cs := by
  fun_induction normalizeLineEnds cs with
  | case1 rest ih =>
    rw [lineEnd_infix_cons, ih, doubledLineEnd_infix_cons, doubledLineEnd_infix_cons]
    simp [lineEnd]
  | case2 c rest other ih =>
    rw [lineEnd_infix_cons, doubledLineEnd_infix_cons, ih, head?_normalizeLineEnds]
    have notEnd : c = '\r' → rest.head? ≠ some '\n' := by
      rintro rfl h
      obtain ⟨behind, rfl⟩ := List.head?_eq_some_iff.mp h
      exact other behind rfl rfl
    tauto
  | case3 => simp [lineEnd, doubledLineEnd]

/-- A text without a line end is normalized. -/
theorem normalizeLineEnds_of_not_infix {cs : List Char} (h : ¬ lineEnd <:+: cs) :
    normalizeLineEnds cs = cs := by
  fun_induction normalizeLineEnds cs with
  | case1 rest ih => exact absurd (List.infix_append [] lineEnd rest) h
  | case2 c rest other ih =>
    rw [lineEnd_infix_cons, not_or] at h
    rw [ih h.2]
  | case3 => rfl

theorem count_normalizeLineEnds_le (cs : List Char) :
    (normalizeLineEnds cs).count '\r' ≤ cs.count '\r' := by
  fun_induction normalizeLineEnds cs with
  | case1 rest ih =>
    rw [List.count_cons_of_ne (by decide), List.count_cons_self, List.count_cons_of_ne (by decide)]
    omega
  | case2 c rest other ih =>
    rw [List.count_cons, List.count_cons]
    omega
  | case3 => exact Nat.le_refl _

/-- **Normalizing a text with a line end loses a carriage return.** -/
theorem count_normalizeLineEnds_lt {cs : List Char} (h : lineEnd <:+: cs) :
    (normalizeLineEnds cs).count '\r' < cs.count '\r' := by
  fun_induction normalizeLineEnds cs with
  | case1 rest ih =>
    have rest_le := count_normalizeLineEnds_le rest
    rw [List.count_cons_of_ne (by decide), List.count_cons_self, List.count_cons_of_ne (by decide)]
    omega
  | case2 c rest other ih =>
    have behind : lineEnd <:+: rest := by
      rcases lineEnd_infix_cons.mp h with ⟨rfl, newline⟩ | behind
      · obtain ⟨behind, rfl⟩ := List.head?_eq_some_iff.mp newline
        exact (other behind rfl rfl).elim
      · exact behind
    have rest_lt := ih behind
    rw [List.count_cons, List.count_cons]
    omega
  | case3 => simp [lineEnd] at h

/-- **Normalizing twice is normalizing once** iff there is no newline with two carriage returns
before it. -/
theorem normalizeLineEnds_twice_iff (cs : List Char) :
    normalizeLineEnds (normalizeLineEnds cs) = normalizeLineEnds cs
      ↔ ¬ doubledLineEnd <:+: cs := by
  rw [← lineEnd_infix_normalizeLineEnds]
  constructor
  · intro same h
    have fewer := count_normalizeLineEnds_lt h
    rw [same] at fewer
    exact Nat.lt_irrefl _ fewer
  · exact normalizeLineEnds_of_not_infix

theorem toList_normalized (source : String) :
    (normalized source).toList = normalizeLineEnds source.toList :=
  String.toList_ofList

theorem normalized_twice_iff (source : String) :
    normalized (normalized source) = normalized source ↔ ¬ doubledLineEnd <:+: source.toList := by
  rw [← normalizeLineEnds_twice_iff, normalized, normalized, String.toList_ofList,
    String.ofList_inj]

end Text

/-! ## 2. Carriage returns in lines -/

namespace Token

/-- Blanks apart, tokens hold all characters of their text. -/
theorem count_flatMap_tokens {c : Char} (hc : c ≠ ' ') (source : String) :
    ((tokens source).flatMap String.toList).count c = source.toList.count c := by
  rw [flatMap_tokens]
  generalize source.toList = cs
  generalize false = inside
  induction cs generalizing inside with
  | nil => rfl
  | cons d cs ih =>
    have here : (if d = ' ' && !inside then [] else [d]).count c = [d].count c := by
      split_ifs with blank
      · rw [Bool.and_eq_true, decide_eq_true_eq] at blank
        rw [blank.1, List.count_nil, List.count_singleton, if_neg (by simpa using hc.symm)]
      · rfl
    rw [unspaced, List.count_append, ih, here, ← List.count_append, List.singleton_append]

end Token

namespace Source

/-- The carriage returns in a line. -/
def Line.returns (l : Line) : Nat := (l.node.leaves.flatMap (·.value.toList)).count '\r'

theorem returns_readLine (ts : List String) :
    (readLine ts).value.returns = (ts.flatMap String.toList).count '\r' := by
  have line := isLineOf_readLine ts
  have values : (readLine ts).value.node.leaves.flatMap (·.value.toList)
      = ((readLine ts).value.node.leaves.map Node.value).flatMap String.toList := by
    rw [List.flatMap_map]
  rw [Line.returns, values]
  by_cases begins : BeginsAssignment (Fold.foldAll (leaves ts)).nodes
  · -- the `LET` that is added has none
    rw [(line.added begins).2]
    conv_rhs => rw [← List.take_append_drop 1 ts]
    rw [List.flatMap_append, List.flatMap_append, List.flatMap_cons, List.count_append,
      List.count_append, List.count_append]
    simp
  · rw [(line.kept begins).2]

/-- Cutting tokens into lines loses newlines only. -/
theorem sum_returns_segments (ts : List String) :
    ((segments ts).map fun line => (line.flatMap String.toList).count '\r').sum
      = (ts.flatMap String.toList).count '\r' := by
  induction ts with
  | nil => rfl
  | cons t ts ih =>
    rw [segments]
    split_ifs with newline
    · rw [List.map_cons, List.sum_cons, ih, newline, List.flatMap_cons, List.count_append]
      rfl
    · rw [List.flatMap_cons, List.count_append, ← ih]
      cases segments ts with
      | nil => simp
      | cons line lines => simp [Nat.add_assoc]

/-- **The lines of a text hold all its carriage returns.** -/
theorem sum_returns_lines (source : String) :
    ((lines source).map Line.returns).sum = source.toList.count '\r' := by
  rw [lines_eq, List.map_map, ← Token.count_flatMap_tokens (by decide), ← sum_returns_segments]
  refine congrArg List.sum (List.map_congr_left fun ts _ => returns_readLine ts)

/-- **Normalizing changes the lines of a text that has a line end.** -/
theorem lines_normalized_ne {source : String} (h : Text.lineEnd <:+: source.toList) :
    lines (Text.normalized source) ≠ lines source := by
  intro same
  have fewer := Text.count_normalizeLineEnds_lt h
  rw [← sum_returns_lines source, ← same, sum_returns_lines, Text.toList_normalized] at fewer
  exact Nat.lt_irrefl _ fewer

end Source

/-! ## 3. Two ways to start -/

namespace CommandLine

open Source (lines)

/-- The session starts with the interpreter that a program was taken into, after the same output and
the same warnings, and welcomes the user. -/
structure StartsWith (r : Reply) (loaded : Turn (List Error)) : Prop where
  interpreter : r.console.interpreter = loaded.interpreter
  output : r.output = loaded.writes
  errors : r.errors = warnings loaded ++ [r.console.welcome]

/-- There is nothing to take in from an empty text. -/
theorem load_empty (i : Interpreter) : ∃ notices, i.load {} "" = i.idle notices [] :=
  ⟨_, rfl⟩

/-- **A session takes in its program as `run` does**, but normalizes the text first. -/
theorem startsWith_openSession (settings : Settings) (source : String) :
    StartsWith (openSession settings source) (loadProgram settings (Text.normalized source)) := by
  unfold openSession
  split_ifs with nothing
  · obtain ⟨notices, h⟩ := load_empty (Interpreter.new settings.arraySize)
    have loaded : loadProgram settings (Text.normalized source)
        = (Interpreter.new settings.arraySize).idle notices [] := by
      rw [nothing]
      exact h
    rw [loaded]
    exact ⟨rfl, rfl, rfl⟩
  · have taken : (Console.new toolName version helpText settings.format
          settings.arraySize).interpreter.load {} (Text.normalized source)
        = loadProgram settings (Text.normalized source) := rfl
    simp only [Console.load, taken]
    generalize loadProgram settings (Text.normalized source) = t
    exact ⟨rfl, rfl, by simp [warnings, Console.welcome, Function.comp_def]⟩

/-- **A session starts as `run` does, unless a line of the file ends in two carriage returns.**  The
file is normalized once for `run` and twice for a session.  The lines that are taken in are the same
iff no newline of the file has two carriage returns before it, and then so are the interpreter, its
output and the warnings. -/
theorem session_starts_alike (settings : Settings) (content : String) :
    let once := Text.normalized content
    let session := openSession settings once
    StartsWith session (loadProgram settings (Text.normalized once))
      ∧ (lines (Text.normalized once) = lines once ↔ ¬ Text.doubledLineEnd <:+: content.toList)
      ∧ (¬ Text.doubledLineEnd <:+: content.toList →
          StartsWith session (loadProgram settings once)) := by
  intro once session
  have start : StartsWith session (loadProgram settings (Text.normalized once)) :=
    startsWith_openSession settings once
  refine ⟨start, ?_, ?_⟩
  · constructor
    · intro same doubled
      refine Source.lines_normalized_ne ?_ same
      rw [Text.toList_normalized]
      exact (Text.lineEnd_infix_normalizeLineEnds content.toList).mpr doubled
    · intro single
      rw [(Text.normalized_twice_iff content).mpr single]
  · intro single
    rw [(Text.normalized_twice_iff content).mpr single] at start
    exact start

/-- A line that ends in one carriage return and one that has a carriage return inside are read
alike; a line that ends in two is not. -/
theorem session_starts_alike_mixed :
    let settings : Settings := ⟨"table", 10⟩
    StartsWith (openSession settings (Text.normalized "10 A = 1\r\n20 \rB = 2\n"))
        (loadProgram settings (Text.normalized "10 A = 1\r\n20 \rB = 2\n"))
      ∧ lines (Text.normalized (Text.normalized "10 A = 1\r\r\n"))
          ≠ lines (Text.normalized "10 A = 1\r\r\n") := by
  intro settings
  constructor
  · exact (session_starts_alike settings "10 A = 1\r\n20 \rB = 2\n").2.2 (by decide)
  · intro same
    exact (session_starts_alike settings "10 A = 1\r\r\n").2.1.mp same (by decide)

/-- **A session may start with another program than `run`.**  Between the quotes there are two
carriage returns and a newline; `run` keeps one of them and the session none. -/
theorem session_starts_otherwise :
    let settings : Settings := ⟨"table", 10⟩
    let once := Text.normalized "10 PRINT \"\r\r\n\""
    (openSession settings once).console.interpreter.source = "10 PRINT \"\n\"\n"
      ∧ (loadProgram settings once).interpreter.source = "10 PRINT \"\r\n\"\n" := by
  constructor
  · decide +kernel
  · decide +kernel

end CommandLine

end LineBasic
