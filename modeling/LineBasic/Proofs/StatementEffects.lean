/-
# What a statement does

A statement is worked out first and carried out then.  Working it out changes nothing, so all
failures on the way leave the state as it was.  What can fail afterwards is one step only: an index
that the array does not accept, or a write that is refused.

* An assignment that can be worked out has a fixed form (`Assigns`, `assigns_of_assignment`), and
  any statement that can be is such an assignment or a PRINT (`effect_cases`).
* An assignment that has been worked out sets one cell (`Sets`), or its index is not accepted, and
  an array of zeros may have been made for it (`setElement_of_refused`).  A PRINT writes one text or
  none.

So **a statement that fails leaves the state as it was, but perhaps for one new array of zeros, and
one that succeeds does one thing** (`state_after_statement`), however it is executed.
-/
import LineBasic.Proofs.CellMemory
import LineBasic.Proofs.Execution
import LineBasic.Proofs.Sequences

namespace LineBasic

open Source (Line completed letWord)

/-! ## 1. What a statement asks for -/

theorem Traced.exists_of_bind_eq_ok {ε α β : Type} {x : Traced ε α} {f : α → Traced ε β} {b : β}
    (h : (x >>= f).result = .ok b) : ∃ a, x.result = .ok a ∧ (f a).result = .ok b := by
  rw [result_bind] at h
  cases hx : x.result with
  | error e =>
    rw [hx] at h
    cases h
  | ok a =>
    rw [hx] at h
    exact ⟨a, rfl, h⟩

namespace Statement

variable {s : Store} {name : String} {e : Effect} {nodes statement : List Node}

theorem evaluate_of_valueOf {n : Node} {x : Float} (h : (valueOf s n).result = .ok x) :
    (evaluate s n).result = .ok x := by
  unfold valueOf Traced.mapError at h
  cases hn : (evaluate s n).result with
  | error cause =>
    rw [hn] at h
    cases h
  | ok y =>
    rw [hn] at h
    cases h
    rfl

/-- The statement is an assignment that can be worked out, and asks for the effect.  An expression
behind the name is an index.  Nothing is said of what follows the value. -/
inductive Assigns (s : Store) : List Node → Effect → Prop
  | scalar {name : String} {word children : List Node} {equals value : Node} {x : Float}
      (rest : List Node) (hequals : equals.isSymbol "=")
      (hvalue : (evaluate s value).result = .ok x) :
      Assigns s
        (.mk .statementName "LET" word :: .mk .identifier name children :: equals :: value :: rest)
        (.setScalar name x)
  | element {name : String} {word children : List Node} {index equals value : Node} {k x : Float}
      (rest : List Node) (hkind : index.kind? = some .expression)
      (hindex : (evaluate s index).result = .ok k) (hequals : equals.isSymbol "=")
      (hvalue : (evaluate s value).result = .ok x) :
      Assigns s
        (.mk .statementName "LET" word :: .mk .identifier name children :: index :: equals :: value
          :: rest)
        (.setElement name k x)

theorem exists_of_assignScalar (h : (assignScalar s name nodes).result = .ok e) :
    ∃ value rest x, nodes = value :: rest ∧ (evaluate s value).result = .ok x
      ∧ e = .setScalar name x := by
  cases nodes with
  | nil => cases h
  | cons value rest =>
    obtain ⟨x, hx, h⟩ := Traced.exists_of_bind_eq_ok h
    cases h
    exact ⟨value, rest, x, rfl, evaluate_of_valueOf hx, rfl⟩

theorem exists_of_assignElement {index : Float}
    (h : (assignElement s name index nodes).result = .ok e) :
    ∃ equals value rest x, nodes = equals :: value :: rest ∧ equals.isSymbol "="
      ∧ (evaluate s value).result = .ok x ∧ e = .setElement name index x := by
  unfold assignElement at h
  split at h
  · cases h
  · split_ifs at h with hequals
    · split at h
      · cases h
      · obtain ⟨x, hx, h⟩ := Traced.exists_of_bind_eq_ok h
        cases h
        exact ⟨_, _, _, x, rfl, hequals, evaluate_of_valueOf hx, rfl⟩
    · cases h

theorem assigns_of_assignTo (h : (assignTo s name nodes).result = .ok e)
    (word children : List Node) :
    Assigns s (.mk .statementName "LET" word :: .mk .identifier name children :: nodes) e := by
  unfold assignTo at h
  split at h
  · cases h
  · cases h
  · split_ifs at h with hkind hequals
    · obtain ⟨k, hk, h⟩ := Traced.exists_of_bind_eq_ok h
      obtain ⟨equals, value, rest, x, rfl, hequals, hx, rfl⟩ := exists_of_assignElement h
      exact .element rest hkind (evaluate_of_valueOf hk) hequals hx
    · obtain ⟨value, rest, x, rfl, hx, rfl⟩ := exists_of_assignScalar h
      exact .scalar rest hequals hx
    · cases h

/-- **An assignment that can be worked out has the form of one.** -/
theorem assigns_of_assignment (h : (assignment s statement).result = .ok e) :
    Assigns s statement e := by
  unfold assignment at h
  split at h
  · cases h
  · cases h
  · rename_i kind keyword word nodes
    split_ifs at h with hkeyword
    · simp only [Bool.and_eq_true, decide_eq_true_eq] at hkeyword
      obtain ⟨rfl, rfl⟩ := hkeyword
      unfold assignAfterLet at h
      split at h
      · cases h
      · cases h
      · split_ifs at h with hkind
        · subst hkind
          exact assigns_of_assignTo h word _
        · cases h
    · cases h

/-- The statement begins with the keyword PRINT. -/
def IsPrint (statement : List Node) : Prop :=
  ∃ children rest, statement = .mk .statementName "PRINT" children :: rest

/-- The statement is an assignment to a variable of the name, perhaps without its keyword. -/
def Targets (statement : List Node) (name : String) : Prop :=
  ∃ word children rest, completed statement
    = .mk .statementName "LET" word :: .mk .identifier name children :: rest

/-- **A statement that can be worked out** is a PRINT and asks for a text to be written, or it is an
assignment, perhaps without its keyword. -/
theorem effect_cases {immediate : Bool} (h : (effect s immediate statement).result = .ok e) :
    (IsPrint statement ∧ ∃ text, e = .write text)
      ∨ Assigns s (completed statement) e := by
  unfold effect at h
  split at h
  · cases h
  · cases h
  · rename_i kind keyword children rest
    dsimp only at h
    split_ifs at h with isLet isPrint isName
    · right
      simp only [Bool.and_eq_true, decide_eq_true_eq] at isLet
      obtain ⟨rfl, rfl⟩ := isLet
      exact assigns_of_assignment h
    · left
      rw [printing, if_pos isPrint] at h
      simp only [Bool.and_eq_true, decide_eq_true_eq] at isPrint
      obtain ⟨rfl, rfl⟩ := isPrint
      obtain ⟨texts, -, h⟩ := Traced.exists_of_bind_eq_ok h
      cases h
      exact ⟨⟨children, rest, rfl⟩, _, rfl⟩
    · right
      simp only [Bool.and_eq_true, decide_eq_true_eq] at isName
      obtain ⟨rfl, -⟩ := isName
      exact assigns_of_assignment h
    · cases h

/-- An assignment sets a scalar, or an element of the array that it names. -/
theorem Assigns.effect_eq (h : Assigns s (completed statement) e) :
    (∃ name x, e = .setScalar name x)
      ∨ ∃ name index x, e = .setElement name index x ∧ Targets statement name := by
  generalize spelled : completed statement = nodes at h
  cases h with
  | scalar => exact .inl ⟨_, _, rfl⟩
  | element => exact .inr ⟨_, _, _, rfl, _, _, _, spelled⟩

end Statement

/-! ## 2. What an assignment does to the store -/

/-- The error is about an index that an array of this name and size does not accept. -/
inductive IsIndexError (name : String) (size : Nat) : Error → Prop
  | invalid (index : Float) : IsIndexError name size (.access (.invalidIndex name index))
  | beyond (index : Float) : IsIndexError name size (.access (.outOfBounds name index size))

theorem isIndexError_of_checkIndex {name : String} {index : Float} {size : Nat} {e : AccessError}
    (h : checkIndex name index size = .error e) : IsIndexError name size (.access e) := by
  unfold checkIndex at h
  split at h
  · cases h
  · cases h
    exact .invalid index
  · cases h
    exact .beyond index

namespace Store

variable {s : Store} {name : String} {index x : Float}

/-- The second store is the first with one cell set, in an array of zeros if there was none. -/
inductive Sets (s t : Store) : Effect → Prop
  | scalar {name : String} {x : Float}
      (scalars : ∀ y, t.scalars.find? y = if name = y then some x else s.scalars.find? y)
      (arrays : t.arrays = s.arrays) (arraySize : t.arraySize = s.arraySize) :
      Sets s t (.setScalar name x)
  | element {name : String} {index x : Float} {k : Nat} (stands : standsFor index k)
      (inside : k < (s.cells name s.arraySize).size) (scalars : t.scalars = s.scalars)
      (arrays : ∀ y, t.array? y
        = if name = y then some ((s.cells name s.arraySize).set k x inside) else s.array? y)
      (arraySize : t.arraySize = s.arraySize) : Sets s t (.setElement name index x)

theorem sets_setScalar (s : Store) (name : String) (x : Float) :
    Sets s (s.setScalar name x) (.setScalar name x) :=
  .scalar (fun y => find?_insert_string s.scalars name y x) rfl rfl

theorem Sets.scalar_eq {t : Store} (h : s.Sets t (.setScalar name x)) : t.scalar name = x := by
  cases h with
  | scalar scalars => simp [Store.scalar, scalars]

theorem sets_setElement {k : Nat}
    (h : checkIndex name index (s.cells name s.arraySize).size = .ok k) :
    Sets s (s.setElement name index x).1 (.setElement name index x) := by
  obtain ⟨stands, inside⟩ := checkIndex_eq_ok_iff.mp h
  refine .element stands inside ?_ (fun y => ?_) (arraySize_setElement s name index x)
  · rw [setElement_of_ok h, scalars_dim]
  · rw [setElement_of_ok h, array?, find?_insert_string, Array.setIfInBounds, dif_pos inside]
    split_ifs with same
    · rfl
    · exact (array?_dim s name y s.arraySize).trans (if_neg same)

/-- The store with a new array of zeros. -/
def withZeros (s : Store) (name : String) : Store :=
  { s with arrays := s.arrays.insert name (Array.replicate s.arraySize 0.0) }

theorem array?_withZeros {y : String} {cells : Array Float} (absent : s.array? name = none)
    (h : s.array? y = some cells) : (s.withZeros name).array? y = some cells := by
  have other : name ≠ y := by
    rintro rfl
    rw [absent] at h
    cases h
  rw [array?, withZeros, find?_insert_string, if_neg other]
  exact h

/-- An index that is not accepted may have made the array, if there was none. -/
theorem setElement_of_refused {e : AccessError}
    (h : checkIndex name index (s.cells name s.arraySize).size = .error e) :
    (s.setElement name index x).1 = s
      ∨ s.array? name = none ∧ IsIndexError name s.arraySize (.access e)
        ∧ (s.setElement name index x).1 = s.withZeros name := by
  rw [setElement_of_error h, dim]
  cases found : s.array? name with
  | some cells => exact .inl rfl
  | none =>
    rw [cells, found, Option.getD_none, Array.size_replicate] at h
    exact .inr ⟨rfl, isIndexError_of_checkIndex h, rfl⟩

end Store

/-! ## 3. Statements that fail and statements that succeed -/

namespace Interpreter

open Statement (Assigns IsPrint Targets effect_cases)

/-- What a statement that fails leaves behind.  Nothing is written, and what there was is as it was.
A new array of zeros may be there, if an index was the reason. -/
structure LeavesState (i : Interpreter) (statement : List Node) (e : Error) (after : Interpreter)
    (writes : List String) : Prop where
  writes : writes = []
  program : after.program = i.program
  scalars : after.store.scalars = i.store.scalars
  arrays : ∀ y cells, i.store.array? y = some cells → after.store.array? y = some cells
  store : after.store = i.store
    ∨ ∃ name, Targets statement name ∧ i.store.array? name = none
      ∧ IsIndexError name i.store.arraySize e ∧ after.store = i.store.withZeros name

/-- What a statement that succeeds has done: one text is written, or one cell is set. -/
inductive DoesOneThing (i : Interpreter) (statement : List Node) (after : Interpreter) :
    List String → Prop
  | print (keyword : IsPrint statement) (same : after = i) (text : String) :
      DoesOneThing i statement after [text]
  | assign {e : Effect} (asked : Assigns i.store (completed statement) e)
      (program : after.program = i.program) (sets : i.store.Sets after.store e) :
      DoesOneThing i statement after []

/-- The turn is that of a statement which did all that it asks for or next to nothing. -/
structure IsAtomic (i : Interpreter) (statement : List Node) (t : Turn (Option Error)) : Prop where
  failed : ∀ e, t.answer = some e → LeavesState i statement e t.interpreter t.writes
  succeeded : t.answer = none → DoesOneThing i statement t.interpreter t.writes

variable {i : Interpreter} {statement : List Node} {e : Error} {t : Turn (Option Error)}

theorem isAtomic_of_failed (answered : t.answer = some e)
    (h : LeavesState i statement e t.interpreter t.writes) : IsAtomic i statement t where
  failed e' he' := by
    rw [answered, Option.some.injEq] at he'
    exact he' ▸ h
  succeeded hnone := by
    rw [answered] at hnone
    cases hnone

theorem isAtomic_of_succeeded (answered : t.answer = none)
    (h : DoesOneThing i statement t.interpreter t.writes) : IsAtomic i statement t where
  failed e he := by
    rw [answered] at he
    cases he
  succeeded _ := h

theorem IsAtomic.after (h : IsAtomic i statement t) (notices : List Notice) :
    IsAtomic i statement (t.after notices) := ⟨h.failed, h.succeeded⟩

theorem leavesState_self (i : Interpreter) (statement : List Node) (e : Error) :
    LeavesState i statement e i [] := ⟨rfl, rfl, rfl, fun _ _ h => h, .inl rfl⟩

theorem isAtomic_idle (notices : List Notice) (e : Error) :
    IsAtomic i statement (i.idle notices (some e)) :=
  isAtomic_of_failed rfl (leavesState_self i statement e)

variable (out : Stream)

theorem isAtomic_write (keyword : IsPrint statement) (text : String) :
    IsAtomic i statement (i.perform out (.write text)) := by
  cases refused : out.failure with
  | some reason =>
    simp only [perform, refused]
    exact isAtomic_idle [] _
  | none =>
    simp only [perform, refused]
    exact isAtomic_of_succeeded rfl (.print keyword rfl text)

/-- **An assignment that has been worked out can fail at its index only.** -/
theorem isAtomic_assign {effect : Effect} (asked : Assigns i.store (completed statement) effect) :
    IsAtomic i statement (i.perform out effect) := by
  rcases asked.effect_eq with ⟨name, x, rfl⟩ | ⟨name, index, x, rfl, targets⟩
  · exact isAtomic_of_succeeded rfl (.assign asked rfl (Store.sets_setScalar i.store name x))
  · cases checked : checkIndex name index (i.store.cells name i.store.arraySize).size with
    | ok k =>
      have sets := @Store.sets_setElement i.store name index x k checked
      simp only [perform, Store.setElement_of_ok checked] at sets ⊢
      exact isAtomic_of_succeeded rfl (.assign asked rfl sets)
    | error cause =>
      have left := @Store.setElement_of_refused i.store name index x cause checked
      simp only [perform, Store.setElement_of_error checked] at left ⊢
      refine isAtomic_of_failed rfl ?_
      rcases left with same | ⟨absent, error, made⟩
      · rw [same]
        exact leavesState_self i statement _
      · rw [made]
        exact ⟨rfl, rfl, rfl, fun y cells h => Store.array?_withZeros absent h,
          .inr ⟨name, targets, absent, error, rfl⟩⟩

/-- **A statement is atomic**, whether it may leave out its keyword or not. -/
theorem isAtomic_executeStatement (i : Interpreter) (immediate : Bool) (statement : List Node) :
    IsAtomic i statement (i.executeStatement out immediate statement) := by
  unfold executeStatement carryOut
  split
  · exact isAtomic_idle _ _
  · rename_i effect worked
    refine IsAtomic.after ?_ _
    rcases effect_cases worked with ⟨keyword, text, rfl⟩ | asked
    · exact isAtomic_write out keyword text
    · exact isAtomic_assign out asked

end Interpreter

/-! ## 4. Lines -/

namespace Source.Line

/-- The line begins with a number. -/
def isNumbered (l : Line) : Bool :=
  match l.nodes with
  | .mk .lineNumber _ _ :: _ => true
  | _ => false

/-- What a line says, without its number. -/
def statement (l : Line) : List Node := if l.isNumbered then l.nodes.drop 1 else l.nodes

end Source.Line

namespace Interpreter

/-- The ways in which the statement of a line is executed: it is entered, it is executed by itself,
or a run comes to it. -/
inductive Executes (out : Stream) (i : Interpreter) (l : Line) : Turn (Option Error) → Prop
  | entered (unnumbered : l.isNumbered = false) (nonempty : l.nodes ≠ []) :
      Executes out i l (i.enterLine out l)
  | executed : Executes out i l (i.execute out l)
  | stored (numbered : l.isNumbered) (n : UInt16) : Executes out i l (i.executeStored out (n, l))

theorem parts_eq {l : Line} {p : Parts} (h : parts l = .ok p) :
    p.number.isSome = l.isNumbered ∧ p.statement = l.statement := by
  unfold parts at h
  unfold Line.statement Line.isNumbered
  split at h
  · cases h
    simp_all
  · cases h
  · rename_i kind value children rest hnodes
    split_ifs at h with hkind
    · subst hkind
      split at h
      · cases h
        simp [hnodes]
      · cases h
    · cases h
      simp [hnodes, hkind]

/-- **The state after a statement.**  However it is executed, a statement that fails has written
nothing and left the state as it was, but perhaps for one new array of zeros; and one that succeeds
has written one text or set one cell. -/
theorem state_after_statement {out : Stream} {i : Interpreter} {l : Line} {t : Turn (Option Error)}
    (h : Executes out i l t) : IsAtomic i l.statement t := by
  cases h with
  | entered unnumbered nonempty =>
    cases hparts : parts l with
    | error e =>
      simp only [enterLine, hparts]
      exact isAtomic_idle [] e
    | ok p =>
      obtain ⟨number, statement⟩ := p
      obtain ⟨hnumber, rfl⟩ := parts_eq hparts
      rw [unnumbered] at hnumber
      obtain rfl : number = none := by simpa using hnumber
      have whole : l.statement = l.nodes := by simp [Line.statement, unnumbered]
      rw [enterLine_immediate out i hparts (by rwa [whole])]
      exact isAtomic_executeStatement out i true l.statement
  | executed =>
    cases hparts : parts l with
    | error e =>
      simp only [execute, hparts]
      exact isAtomic_idle [] e
    | ok p =>
      simp only [execute, hparts, (parts_eq hparts).2]
      exact isAtomic_executeStatement out i _ l.statement
  | stored numbered n =>
    have rest : l.statement = l.nodes.drop 1 := by simp [Line.statement, numbered]
    rw [rest]
    exact isAtomic_executeStatement out i false _

/-- An index beyond the end of an array that has to be made: the array stays. -/
theorem state_after_statement_beyond_end :
    let l : Line := ⟨[letWord, .leaf .identifier "A",
      .expression (.leaf .symbol "(") (.leaf .number "3") (.leaf .symbol ")"), .leaf .symbol "=",
      .leaf .number "5"]⟩
    let t := (new 3).execute {} l
    t.answer.isSome ∧ t.writes = [] ∧ t.interpreter.store.scalars = .empty
      ∧ ∃ name, Statement.Targets l.statement name
        ∧ t.interpreter.store = (new 3).store.withZeros name := by
  intro l t
  have fails : t.answer.isSome := by decide +kernel
  have made : (t.interpreter.store.array? "A").isSome := by decide +kernel
  have atomic : IsAtomic (new 3) l.statement t := state_after_statement .executed
  clear_value t
  obtain ⟨e, answered⟩ := Option.isSome_iff_exists.mp fails
  have left := atomic.failed e answered
  refine ⟨fails, left.writes, left.scalars, ?_⟩
  rcases left.store with same | ⟨name, targets, -, -, new⟩
  · rw [same] at made
    cases made
  · exact ⟨name, targets, new⟩

end Interpreter

end LineBasic
