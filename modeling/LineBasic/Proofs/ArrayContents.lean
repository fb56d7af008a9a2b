/-
# What arrays hold stays in them

The elements of arrays can be set, and no statement can read them.  So two interpreters that differ
in the elements of their arrays, and in nothing else (`SameButElements`), cannot be told apart by
what they write, report and answer, and whatever is done to both of them, they never differ in
anything else (`elements_never_seen`).

* A statement is worked out from the scalars alone (`effect_congr`).
* Carrying it out asks an array for its size, to check an index, and never for an element
  (`sameButElements_setElement`).
* From there it is one lemma for each way in which operations follow each other: a step keeps what
  is the same, and decides in the same way whether there is a next one.
-/
import Mathlib
import LineBasic.Proofs.CellMemory
import LineBasic.Proofs.History
import LineBasic.Proofs.Sequences

namespace LineBasic

open Source (Line)

/-! ## 1. Stores, interpreters and turns -/

/-- The stores have the same scalars and arrays of the same names and sizes. -/
structure Store.SameButElements (s t : Store) : Prop where
  scalars : s.scalars = t.scalars
  arrays : ∀ name, (s.array? name).map Array.size = (t.array? name).map Array.size
  arraySize : s.arraySize = t.arraySize

/-- The interpreters hold the same program, and variables that differ in the elements of arrays at
most. -/
structure Interpreter.SameButElements (i j : Interpreter) : Prop where
  program : i.program = j.program
  store : i.store.SameButElements j.store

/-- The turns wrote, reported and answered the same, and left interpreters that differ in the
elements of arrays at most. -/
structure Turn.SameButElements {α : Type} (t u : Turn α) : Prop where
  interpreter : t.interpreter.SameButElements u.interpreter
  writes : t.writes = u.writes
  notices : t.notices = u.notices
  answer : t.answer = u.answer

/-- The same turn with its error, if there is one, in a list. -/
def Turn.listed (t : Turn (Option Error)) : Turn (List Error) :=
  { t with answer := t.answer.toList }

namespace Turn.SameButElements

variable {α β γ : Type} {t u : Turn α} {i j : Interpreter}

theorem idle (h : i.SameButElements j) (notices : List Notice) (answer : α) :
    (i.idle notices answer).SameButElements (j.idle notices answer) := ⟨h, rfl, rfl, rfl⟩

theorem after (h : t.SameButElements u) (notices : List Notice) :
    (t.after notices).SameButElements (u.after notices) :=
  ⟨h.interpreter, h.writes, congrArg (notices ++ ·) h.notices, h.answer⟩

theorem andThen (h : t.SameButElements u) {t' u' : Turn β} (h' : t'.SameButElements u')
    (f : β → γ) :
    (t.andThen t' f).SameButElements (u.andThen u' f) where
  interpreter := h'.interpreter
  writes := congrArg₂ (· ++ ·) h.writes h'.writes
  notices := congrArg₂ (· ++ ·) h.notices h'.notices
  answer := congrArg f h'.answer

theorem noting (h : t.SameButElements u) {a b : β} (answer : a = b) (notices : List Notice) :
    SameButElements ⟨t.interpreter, t.writes, t.notices ++ notices, a⟩
      ⟨u.interpreter, u.writes, u.notices ++ notices, b⟩ :=
  ⟨h.interpreter, h.writes, congrArg (· ++ notices) h.notices, answer⟩

theorem listed {t u : Turn (Option Error)} (h : t.SameButElements u) :
    t.listed.SameButElements u.listed :=
  ⟨h.interpreter, h.writes, h.notices, congrArg Option.toList h.answer⟩

end Turn.SameButElements

/-! ## 2. Working out a statement -/

theorem nodeValue_congr {s t : Store} (h : s.scalars = t.scalars) (kind : Kind) (value : String)
    (children : List Node) (values : List (Traced EvalError Float)) :
    nodeValue s kind value children values = nodeValue t kind value children values := by
  have scalar : s.scalar value = t.scalar value := by rw [Store.scalar, Store.scalar, h]
  unfold nodeValue
  rw [scalar]

mutual

/-- **The value of a tree depends on the scalars alone.** -/
theorem evaluate_congr {s t : Store} (h : s.scalars = t.scalars) :
    ∀ n : Node, evaluate s n = evaluate t n
  | .hole => rfl
  | .mk kind value children => by
    rw [evaluate, evaluate, evaluateAll_congr h children, nodeValue_congr h]

theorem evaluateAll_congr {s t : Store} (h : s.scalars = t.scalars) :
    ∀ nodes : List Node, evaluateAll s nodes = evaluateAll t nodes
  | [] => rfl
  | n :: nodes => by rw [evaluateAll, evaluateAll, evaluate_congr h n, evaluateAll_congr h nodes]

end

namespace Statement

variable {s t : Store} (h : s.scalars = t.scalars)

include h

theorem valueOf_congr (n : Node) : valueOf s n = valueOf t n := by
  rw [valueOf, valueOf, evaluate_congr h]

theorem assignTo_congr (name : String) (nodes : List Node) :
    assignTo s name nodes = assignTo t name nodes := by
  unfold assignTo assignElement assignScalar
  simp only [valueOf_congr h]

theorem assignment_congr (statement : List Node) :
    assignment s statement = assignment t statement := by
  unfold assignment assignAfterLet
  simp only [assignTo_congr h]

theorem arguments_congr (nodes : List Node) : arguments s nodes = arguments t nodes := by
  induction nodes with
  | nil => rfl
  | cons n nodes ih =>
    cases n with
    | hole => rfl
    | mk kind value children => simp only [arguments, ih, valueOf_congr h]

theorem printing_congr (statement : List Node) : printing s statement = printing t statement := by
  unfold printing
  simp only [arguments_congr h]

/-- **What a statement asks for depends on the scalars alone.** -/
theorem effect_congr (immediate : Bool) (statement : List Node) :
    effect s immediate statement = effect t immediate statement := by
  unfold effect
  simp only [assignment_congr h, printing_congr h]

end Statement

/-! ## 3. Carrying it out -/

namespace Store

variable {s t : Store} (h : s.SameButElements t)

include h

theorem SameButElements.size_cells (name : String) :
    (s.cells name s.arraySize).size = (t.cells name t.arraySize).size := by
  have sizes := h.arrays name
  rw [h.arraySize, cells, cells]
  cases hs : s.array? name <;> cases ht : t.array? name <;> simp_all

theorem sameButElements_setScalar (name : String) (value : Float) :
    (s.setScalar name value).SameButElements (t.setScalar name value) where
  scalars := by rw [setScalar, setScalar, h.scalars]
  arrays := h.arrays
  arraySize := h.arraySize

theorem sameButElements_dim (name : String) :
    (s.dim name s.arraySize).1.SameButElements (t.dim name t.arraySize).1 where
  scalars := by rw [scalars_dim, scalars_dim, h.scalars]
  arrays y := by
    rw [array?_dim, array?_dim]
    split_ifs with same
    · exact congrArg some (h.size_cells name)
    · exact h.arrays y
  arraySize := by rw [arraySize_dim, arraySize_dim, h.arraySize]

/-- **Setting an element asks for the size of its array alone.** -/
theorem sameButElements_setElement (name : String) (index value : Float) :
    (s.setElement name index value).1.SameButElements (t.setElement name index value).1
      ∧ (s.setElement name index value).2 = (t.setElement name index value).2 := by
  have sizes := h.size_cells name
  have made := sameButElements_dim h name
  cases checked : checkIndex name index (s.cells name s.arraySize).size with
  | error e =>
    rw [setElement_of_error checked, setElement_of_error (sizes ▸ checked)]
    exact ⟨made, rfl⟩
  | ok k =>
    rw [setElement_of_ok checked, setElement_of_ok (sizes ▸ checked)]
    refine ⟨⟨made.scalars, fun y => ?_, made.arraySize⟩, rfl⟩
    rw [array?, array?, find?_insert_string, find?_insert_string]
    split_ifs with same
    · simpa using sizes
    · exact made.arrays y

theorem elementNotices_congr (name : String) (index value : Float) :
    s.elementNotices name index value = t.elementNotices name index value := by
  have sizes := h.size_cells name
  have made : s.dimNotices name s.arraySize = t.dimNotices name t.arraySize := by
    have known := h.arrays name
    rw [h.arraySize, dimNotices, dimNotices]
    cases hs : s.array? name <;> cases ht : t.array? name <;> simp_all
  unfold elementNotices
  rw [dim_eq, dim_eq t]
  simp only [made, sizes]

end Store

namespace Interpreter

variable {i j : Interpreter} (h : i.SameButElements j) (out : Stream)

include h

theorem sameButElements_perform (e : Effect) :
    (i.perform out e).SameButElements (j.perform out e) := by
  cases e with
  | setScalar name value =>
    exact ⟨⟨h.program, Store.sameButElements_setScalar h.store name value⟩, rfl, rfl, rfl⟩
  | setElement name index value =>
    obtain ⟨stores, results⟩ := Store.sameButElements_setElement h.store name index value
    have notices := Store.elementNotices_congr h.store name index value
    rw [perform, perform]
    cases hi : i.store.setElement name index value with
    | mk s result =>
      cases hj : j.store.setElement name index value with
      | mk t result' =>
        rw [hi, hj] at stores results
        obtain rfl : result = result' := results
        cases result with
        | ok => exact ⟨⟨h.program, stores⟩, rfl, notices, rfl⟩
        | error e => exact ⟨⟨h.program, stores⟩, rfl, notices, rfl⟩
  | write text =>
    rw [perform, perform]
    cases out.failure with
    | some reason => exact .idle h [] _
    | none => exact ⟨h, rfl, rfl, rfl⟩

/-- **A statement does the same to both.** -/
theorem sameButElements_executeStatement (immediate : Bool) (statement : List Node) :
    (i.executeStatement out immediate statement).SameButElements
      (j.executeStatement out immediate statement) := by
  have asked := Statement.effect_congr h.store.scalars immediate statement
  rw [executeStatement, executeStatement, carryOut, carryOut, asked]
  cases (Statement.effect j.store immediate statement).result with
  | error e => exact .idle h _ _
  | ok e => exact (sameButElements_perform h out e).after _

/-! ## 4. Lines and programs -/

theorem sameButElements_enterLine (l : Line) :
    (i.enterLine out l).SameButElements (j.enterLine out l) := by
  cases hparts : parts l with
  | error e =>
    simp only [enterLine, hparts]
    exact .idle h [] _
  | ok p =>
    obtain ⟨_ | n, _ | ⟨m, statement⟩⟩ := p <;> simp only [enterLine, hparts]
    · exact .idle h [] none
    · exact sameButElements_executeStatement h out true _
    · exact ⟨⟨congrArg (·.erase n) h.program, h.store⟩, rfl, rfl, rfl⟩
    · exact ⟨⟨congrArg (·.insert n l) h.program, h.store⟩, rfl, rfl, rfl⟩

theorem sameButElements_execute (l : Line) :
    (i.execute out l).SameButElements (j.execute out l) := by
  rw [execute, execute]
  cases parts l with
  | error e => exact .idle h [] _
  | ok p => exact sameButElements_executeStatement h out _ _

-- The three ways in which lines follow each other go on, or end, by what a line answers; as both
-- answer the same, both do the one or the other.

theorem sameButElements_enterLines (ls : List Line) :
    (i.enterLines out ls).SameButElements (j.enterLines out ls) := by
  induction ls generalizing i j with
  | nil => exact .idle h [] none
  | cons l ls ih =>
    have now := sameButElements_enterLine h out l
    have answers := now.answer
    rw [enterLines, enterLines]
    cases answered : (j.enterLine out l).answer with
    | some e =>
      simp only [answers, answered]
      exact now
    | none =>
      simp only [answers, answered]
      exact now.andThen (ih now.interpreter) id

theorem sameButElements_loadLines (first : Nat) (ls : List Line) :
    (i.loadLines out first ls).SameButElements (j.loadLines out first ls) := by
  induction ls generalizing i j first with
  | nil => exact .idle h [] []
  | cons l ls ih =>
    have now := sameButElements_enterLine h out l
    have answers := now.answer
    have later := ih now.interpreter (first + 1)
    rw [loadLines, loadLines]
    cases answered : (j.enterLine out l).answer with
    | none =>
      simp only [answers, answered]
      exact now.andThen later id
    | some e =>
      simp only [answers, answered]
      exact (now.noting answers _).andThen later _

theorem sameButElements_runLines (entries : List (UInt16 × Line)) :
    (i.runLines out entries).SameButElements (j.runLines out entries) := by
  induction entries generalizing i j with
  | nil => exact .idle h [] none
  | cons e rest ih =>
    have now := sameButElements_executeStatement h out false (e.2.nodes.drop 1)
    have answers := now.answer
    rw [runLines, runLines]
    cases answered : (j.executeStatement out false (e.2.nodes.drop 1)).answer with
    | none =>
      simp only [answers, answered]
      exact now.andThen (ih now.interpreter) id
    | some e =>
      simp only [answers, answered]
      exact now.noting rfl _

theorem sameButElements_run : (i.run out).SameButElements (j.run out) := by
  rw [run, run, h.program]
  cases j.program.entries with
  | nil => exact .idle h [] _
  | cons e rest => exact sameButElements_runLines h out (e :: rest)

theorem sameButElements_list : (i.list out).SameButElements (j.list out) := by
  rw [list, list, h.program]
  cases lineTexts j.program.entries with
  | error fault => exact .idle h [] _
  | ok texts =>
    cases texts with
    | nil => exact .idle h [] none
    | cons text texts =>
      cases out.failure with
      | some reason => exact .idle h [] _
      | none => exact ⟨h, rfl, rfl, rfl⟩

theorem sameButElements_clear : i.clear.SameButElements j.clear := by
  rw [clear, clear, h.store.arraySize]
  exact ⟨rfl, rfl, fun _ => rfl, rfl⟩

omit h

/-! ## 5. Histories -/

/-- What an operation came to, its answer being the errors or warnings that it gave. -/
def Operation.turn (i : Interpreter) : Operation → Turn (List Error)
  | .enter out text => (i.enter out text).listed
  | .load out source => i.load out source
  | .run out => (i.run out).listed
  | .execute out l => (i.execute out l).listed
  | .list out => (i.list out).listed
  | .clear => i.clear.idle [] []

/-- **One operation does the same to both.** -/
theorem sameButElements_turn (h : i.SameButElements j) (o : Operation) :
    (o.turn i).SameButElements (o.turn j) := by
  cases o with
  | enter out text =>
    exact ((sameButElements_enterLines h out (Source.lines text)).after _).listed
  | load out source => exact (sameButElements_loadLines h out 1 (Source.lines source)).after _
  | run out => exact (sameButElements_run h out).listed
  | execute out l => exact (sameButElements_execute h out l).listed
  | list out => exact (sameButElements_list h out).listed
  | clear => exact .idle (sameButElements_clear h) [] []

/-- **What arrays hold never shows.**  Interpreters that differ in the elements of their arrays at
most write, report and answer the same through every history, and still differ in nothing else
behind it. -/
theorem elements_never_seen (h : i.SameButElements j) (history : List Operation) :
    (i.each Operation.turn history).SameButElements (j.each Operation.turn history) := by
  induction history generalizing i j with
  | nil => exact .idle h [] []
  | cons o history ih =>
    have now := sameButElements_turn h o
    have answers := now.answer
    rw [each, each]
    simp only [answers]
    exact now.andThen (ih now.interpreter) _

/-- Two arrays of two elements.  One of the elements is set, one beyond the end is asked for, and
the array itself is printed. -/
theorem elements_never_seen_two_arrays :
    let holding (x : Float) : Interpreter :=
      ⟨.empty, .empty, SortedMap.empty.insert "A" #[x, x], 10⟩
    let history : List Operation :=
      [.enter {} "A(1) = 7\n10 A(2) = 1\nPRINT A", .run {}, .load {} "PRINT A(0)\nB(3) = 4"]
    (holding 1).store.array? "A" ≠ (holding 2).store.array? "A"
      ∧ ((holding 1).each Operation.turn history).SameButElements
          ((holding 2).each Operation.turn history) := by
  intro holding history
  have same : (holding 1).SameButElements (holding 2) := by
    refine ⟨rfl, rfl, fun name => ?_, rfl⟩
    simp only [holding, Store.array?, Store.find?_insert_string]
    split_ifs <;> simp
  clear_value history
  exact ⟨by decide +kernel, elements_never_seen same history⟩

end Interpreter

end LineBasic
