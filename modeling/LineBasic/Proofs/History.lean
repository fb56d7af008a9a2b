/-
# What a program can hold

An interpreter starts empty and goes through texts entered, sources loaded, runs, lines executed
and clearings, in any order.  Of these only a line taken in touches the program (`enterLine_cases`),
so whatever the history, every stored line is one that was read from some text and has the number
under which it is stored (`fromSource_of_reachable`).

Such a line is known in full: there are tokens that are read as just this line and that its tree
has as its leaves (`IsProgramLine.exists_readFrom`).  They are the tokens it came from, with the
`LET` that was left out among them.
-/
import LineBasic.Proofs.Execution
import LineBasic.Proofs.LineNumbers
import LineBasic.Proofs.TokenLanguage

namespace LineBasic

open Source (Line classify completed kindOf readLine segments statementNodes)

namespace Interpreter

/-! ## 1. Histories -/

/-- The interpreters that a history can lead to.  Output may go elsewhere at each step. -/
inductive Reachable : Interpreter → Prop
  | new (arraySize : Int) : Reachable (new arraySize)
  | enter {i : Interpreter} (out : Stream) (text : String) (h : Reachable i) :
      Reachable (i.enter out text).interpreter
  | load {i : Interpreter} (out : Stream) (source : String) (h : Reachable i) :
      Reachable (i.load out source).interpreter
  | run {i : Interpreter} (out : Stream) (h : Reachable i) : Reachable (i.run out).interpreter
  | execute {i : Interpreter} (out : Stream) (l : Line) (h : Reachable i) :
      Reachable (i.execute out l).interpreter
  | clear {i : Interpreter} (h : Reachable i) : Reachable i.clear

/-- An operation of a history.  Listing is among them, although it changes nothing. -/
inductive Operation where
  | enter (out : Stream) (text : String)
  | load (out : Stream) (source : String)
  | run (out : Stream)
  | execute (out : Stream) (l : Line)
  | list (out : Stream)
  | clear

/-- The interpreter after an operation. -/
def Operation.apply (i : Interpreter) : Operation → Interpreter
  | .enter out text => (i.enter out text).interpreter
  | .load out source => (i.load out source).interpreter
  | .run out => (i.run out).interpreter
  | .execute out l => (i.execute out l).interpreter
  | .list out => (i.list out).interpreter
  | .clear => i.clear

/-- The interpreter after a history. -/
def after (i : Interpreter) (history : List Operation) : Interpreter :=
  history.foldl Operation.apply i

theorem interpreter_list (out : Stream) (i : Interpreter) : (i.list out).interpreter = i := by
  unfold list
  split
  · rfl
  · rfl
  · split <;> rfl

/-- **Every history leads to a reachable interpreter.** -/
theorem Reachable.after {i : Interpreter} (h : Reachable i) (history : List Operation) :
    Reachable (i.after history) := by
  induction history generalizing i with
  | nil => exact h
  | cons o history ih =>
    refine ih (i := o.apply i) ?_
    cases o with
    | enter out text => exact h.enter out text
    | load out source => exact h.load out source
    | run out => exact h.run out
    | execute out l => exact h.execute out l
    | list out => rwa [Operation.apply, interpreter_list]
    | clear => exact h.clear

/-- A numbered line with a statement, read from some text. -/
structure IsProgramLine (n : UInt16) (l : Line) : Prop where
  read : ∃ text, l ∈ Source.lines text
  numbered : ∃ statement, statement ≠ [] ∧ parts l = .ok ⟨some n, statement⟩

/-- Every stored line is a program line under its own number. -/
def FromSource (program : SortedMap UInt16 Line) : Prop :=
  ∀ e ∈ program.entries, IsProgramLine e.1 e.2

/-! ## 2. One line -/

/-- **What becomes of the program when a line is taken in.** -/
theorem enterLine_cases (out : Stream) (i : Interpreter) (l : Line) :
    (i.enterLine out l).interpreter.program = i.program
      ∨ (∃ n, (i.enterLine out l).interpreter.program = i.program.erase n)
      ∨ ∃ n statement, statement ≠ [] ∧ parts l = .ok ⟨some n, statement⟩
          ∧ (i.enterLine out l).interpreter.program = i.program.insert n l := by
  cases h : parts l with
  | error e =>
    left
    simp [enterLine, h, idle]
  | ok p =>
    obtain ⟨_ | n, statement⟩ := p
    · left
      by_cases hne : statement = []
      · simp [enterLine, h, hne, idle]
      · rw [enterLine_immediate out i h hne, program_executeStatement]
    · right
      by_cases hne : statement = []
      · left
        subst hne
        exact ⟨n, by rw [enterLine_removed out i h]⟩
      · right
        exact ⟨n, statement, hne, rfl, by rw [enterLine_stored out i h hne]⟩

theorem fromSource_enterLine (out : Stream) {i : Interpreter} (hi : FromSource i.program)
    {l : Line} (hl : ∃ text, l ∈ Source.lines text) :
    FromSource (i.enterLine out l).interpreter.program := by
  intro e he
  rcases enterLine_cases out i l with same | ⟨n, erased⟩ | ⟨n, statement, hne, hparts, inserted⟩
  · rw [same] at he
    exact hi e he
  · rw [erased] at he
    exact hi e (List.mem_filter.mp he).1
  · rw [inserted] at he
    rcases mem_insertEntry he with rfl | he
    · exact ⟨hl, statement, hne, hparts⟩
    · exact hi e he

/-! ## 3. Lines and histories -/

theorem fromSource_enterLines (out : Stream) {i : Interpreter} (hi : FromSource i.program)
    {ls : List Line} (hls : ∀ l ∈ ls, ∃ text, l ∈ Source.lines text) :
    FromSource (i.enterLines out ls).interpreter.program := by
  induction ls generalizing i with
  | nil => exact hi
  | cons l ls ih =>
    have now := fromSource_enterLine out hi (hls l (by simp))
    rw [enterLines]
    split
    · exact now
    · exact ih now fun l' hl' => hls l' (by simp [hl'])

theorem fromSource_loadLines (out : Stream) {i : Interpreter} (hi : FromSource i.program)
    {ls : List Line} (hls : ∀ l ∈ ls, ∃ text, l ∈ Source.lines text) (first : Nat) :
    FromSource (i.loadLines out first ls).interpreter.program := by
  induction ls generalizing i first with
  | nil => exact hi
  | cons l ls ih =>
    have now := fromSource_enterLine out hi (hls l (by simp))
    have later := ih now (fun l' hl' => hls l' (by simp [hl'])) (first + 1)
    rw [loadLines]
    split
    · exact later
    · exact later

/-- **Whatever the history, a program holds program lines.** -/
theorem fromSource_of_reachable {i : Interpreter} (h : Reachable i) : FromSource i.program := by
  induction h with
  | new arraySize =>
    intro e he
    cases he
  | enter out text _ ih =>
    rw [enter_eq, Turn.interpreter_after]
    exact fromSource_enterLines out ih fun l hl => ⟨text, hl⟩
  | load out source _ ih =>
    rw [load_eq, Turn.interpreter_after]
    exact fromSource_loadLines out ih (fun l hl => ⟨source, hl⟩) 1
  | run out _ ih =>
    rw [program_run]
    exact ih
  | execute out l _ ih =>
    rw [program_execute]
    exact ih
  | clear _ _ =>
    intro e he
    cases he

theorem parts_eq_ok_some {l : Line} {n : UInt16} {statement : List Node}
    (h : parts l = .ok ⟨some n, statement⟩) :
    ∃ number children, l.nodes = .mk .lineNumber number children :: statement := by
  unfold parts at h
  split at h
  · simp at h
  · simp at h
  · rename_i kind value children rest hnodes
    split_ifs at h with hkind
    · split at h
      · simp only [Except.ok.injEq, Parts.mk.injEq, Option.some.injEq] at h
        rw [hnodes, hkind, h.2]
        exact ⟨value, children, rfl⟩
      · simp at h
    · simp at h

end Interpreter

/-! ## 4. The tokens of a stored line -/

theorem Token.isToken_let : IsToken "LET".toList :=
  .word (@IsStem.mk [] 'L' ['E', 'T'] .nothing (by decide) (by simp))

namespace Source

theorem classify_let : classify false "LET" = letWord := rfl

theorem inert_letWord : Fold.Inert letWord := ⟨trivial, rfl, rfl⟩

theorem completed_completed (nodes : List Node) :
    completed (completed nodes) = completed nodes := by
  cases nodes with
  | nil => rfl
  | cons n rest =>
    by_cases h : n.kind? = some .identifier
    · rw [completed, if_pos h]
      rfl
    · simp [completed, h]

/-- A statement that left out its `LET` may as well have spelled it out. -/
theorem exists_completed (ts : List String) :
    ∃ us, (∀ u ∈ us, u = "LET" ∨ u ∈ ts) ∧ statementNodes us = completed (statementNodes ts) := by
  have own : ∀ u ∈ ts, u = "LET" ∨ u ∈ ts := fun u hu => .inr hu
  cases h : statementNodes ts with
  | nil => exact ⟨ts, own, h⟩
  | cons n rest =>
    by_cases hn : n.kind? = some .identifier
    · refine ⟨"LET" :: ts, fun u hu => by simpa using hu, ?_⟩
      rw [statementNodes, List.map_cons, classify_let,
        Fold.nodes_foldAll_cons_inert inert_letWord (allGrown_map_classify ts).known]
      show letWord :: statementNodes ts = _
      rw [h, completed, if_pos hn]
    · exact ⟨ts, own, by rw [h, completed, if_neg hn]⟩

/-- The line is read from the tokens, and they are the leaves of its tree. -/
structure ReadFrom (ts : List String) (l : Line) : Prop where
  nonempty : ts ≠ []
  oneLine : Token.newline ∉ ts
  tokens : ∀ t ∈ ts, Token.IsToken t.toList ∨ Token.IsOpenLiteral t.toList
  line : (readLine ts).value = l
  leaves : Node.leavesAll l.nodes = leaves ts
  grown : Fold.AllGrown l.nodes

/-- A numbered line is read from its number and the completed statement. -/
theorem readFrom_numbered {number : String} (hnumber : kindOf true number = .lineNumber)
    {ts : List String} (oneLine : Token.newline ∉ number :: ts)
    (htokens : ∀ t ∈ number :: ts, Token.IsToken t.toList ∨ Token.IsOpenLiteral t.toList)
    (hts : completed (statementNodes ts) = statementNodes ts) :
    ReadFrom (number :: ts) ⟨classify true number :: statementNodes ts⟩ where
  nonempty := by simp
  oneLine := oneLine
  tokens := htokens
  line := by
    rw [← hts]
    exact congrArg Line.mk (nodes_readLine_numbered hnumber ts)
  leaves := by
    rw [Node.leavesAll_cons, leaves_classify, statementNodes,
      Fold.leavesAll_foldAll (allGrown_map_classify ts).known, leavesAll_map_classify]
    rfl
  grown := by
    intro n hn
    rcases List.mem_cons.mp hn with rfl | hn
    · exact grown_classify true number
    · exact Fold.allGrown_foldAll (allGrown_map_classify ts) n hn

end Source

/-- **Every program line is read from the tokens that its tree spells.** -/
theorem Interpreter.IsProgramLine.exists_readFrom {n : UInt16} {l : Line}
    (h : IsProgramLine n l) : ∃ ts, Source.ReadFrom ts l := by
  obtain ⟨⟨text, hl⟩, statement, -, hparts⟩ := h
  obtain ⟨number, children, hnodes⟩ := parts_eq_ok_some hparts
  rw [Source.lines_eq] at hl
  obtain ⟨ts, hts, rfl⟩ := List.mem_map.mp hl
  have htokens : ∀ t ∈ ts, t ≠ Token.newline
      ∧ (Token.IsToken t.toList ∨ Token.IsOpenLiteral t.toList) := by
    intro t ht
    obtain ⟨mem, hnl⟩ := Source.mem_of_mem_segments hts t ht
    exact ⟨hnl, (Token.isTokenList_tokens text).mem mem⟩
  cases ts with
  | nil =>
    rw [Source.nodes_readLine_nil] at hnodes
    cases hnodes
  | cons t ts =>
    by_cases first : kindOf true t = .lineNumber
    · obtain ⟨us, hus, completion⟩ := Source.exists_completed ts
      have hus : ∀ u ∈ t :: us, u ≠ Token.newline
          ∧ (Token.IsToken u.toList ∨ Token.IsOpenLiteral u.toList) := by
        intro u hu
        rcases List.mem_cons.mp hu with rfl | hu
        · exact htokens u (by simp)
        · rcases hus u hu with rfl | hu
          · exact ⟨by decide, .inl Token.isToken_let⟩
          · exact htokens u (by simp [hu])
      have same : (readLine (t :: ts)).value = ⟨classify true t :: statementNodes us⟩ := by
        rw [completion]
        exact congrArg Line.mk (Source.nodes_readLine_numbered first ts)
      rw [same]
      refine ⟨t :: us, Source.readFrom_numbered first (fun mem => (hus _ mem).1 rfl)
        (fun u hu => (hus u hu).2) ?_⟩
      rw [completion, Source.completed_completed]
    · rw [Source.nodes_readLine_unnumbered first] at hnodes
      have mem : Node.mk .lineNumber number children ∈ statementNodes (t :: ts) := by
        simp [hnodes]
      exact absurd rfl (Source.kind?_ne_lineNumber mem)

/-- Every program line has a text. -/
theorem Interpreter.IsProgramLine.exists_text {n : UInt16} {l : Line} (h : IsProgramLine n l) :
    ∃ text, l.text = .ok text := by
  obtain ⟨ts, hts⟩ := h.exists_readFrom
  refine ⟨Node.trimEnd (spelling (Node.leavesAll l.nodes)), ?_⟩
  show (Node.spellAll l.nodes).map Node.trimEnd = _
  rw [Fold.spellAll_of_grown hts.grown]
  rfl

end LineBasic
