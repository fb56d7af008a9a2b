/-
# Expressions in lines

Folding works on a whole line.  What is folded on one side of a line brings about further rounds
for the other side, and every scan starts again at the beginning.  Still **an expression folds the
same wherever it stands** (`expression_in_line`): a node that can be in no window, such as a keyword
or an equals sign, keeps what is on its two sides apart, and each side comes out as it does alone.

So the value that `x` has after `LET x = e` and the value that `PRINT e` prints are the value of `e`
read by itself, for every text that is an expression (`assigned_executeStatement`,
`quiet_printing`).
-/
import LineBasic.Proofs.AssignmentGrammar
import LineBasic.Proofs.ExpressionTrees
import LineBasic.Proofs.StoredStatements

namespace LineBasic

open Fold (AllKnown Inert foldAll)
open Source (classify kindOf letWord readExpression readTokens statementNodes)
open Statement (form)
open Token (IsToken)

/-! ## 1. The two sides of a node that is in no window -/

/-- **A barrier separates the children of a node.** -/
theorem Node.fold_barrier {b : Node} (h : Inert b) {xs ys : List Node} (hxs : AllKnown xs)
    (hys : AllKnown ys) (kind : Kind) (value : String) :
    (mk kind value (xs ++ b :: ys)).fold.node
      = mk kind value
          ((mk kind value xs).fold.node.children ++ b :: (mk kind value ys).fold.node.children) :=
  congrArg (mk kind value) (Fold.nodes_foldAll_barrier h hxs hys)

/-! ## 2. Statements around an expression -/

namespace Source

/-- The keyword of a statement that writes. -/
def printWord : Node := .leaf .statementName "PRINT"

theorem inert_printWord : Inert printWord := ⟨trivial, rfl, rfl⟩

variable {x : String} {node : Node} {ts : List String}

/-- The tokens of one statement without a number are read as one line. -/
theorem readTokens_unnumbered {t : String} (oneLine : Token.newline ∉ t :: ts)
    (first : kindOf true t ≠ .lineNumber) :
    (readTokens (t :: ts)).value = [⟨statementNodes (t :: ts)⟩] := by
  have line : (readLine (t :: ts)).value = ⟨statementNodes (t :: ts)⟩ :=
    congrArg Line.mk (nodes_readLine_unnumbered first ts)
  simp [readTokens, segments_of_notMem oneLine (List.cons_ne_nil t ts), line]

theorem statementNodes_assignment (hx : kindOf false x = .identifier)
    (read : statementNodes ts = [node]) :
    statementNodes ("LET" :: x :: "=" :: ts) = form x none node [] := by
  have name : classify false x = .leaf .identifier x := by rw [classify, hx]
  have known : (Node.leaf .identifier x).Known := trivial
  have value : (foldAll (ts.map (classify false))).nodes = [node] := read
  show (foldAll (letWord :: ([classify false x]
    ++ .leaf .symbol "=" :: ts.map (classify false)))).nodes = _
  rw [name, Statement.nodes_foldAll_around_equals (by simpa [AllKnown])
      (allGrown_map_classify ts).known,
    Statement.nodes_foldAll_singleton known, value]
  rfl

theorem statementNodes_printing (read : statementNodes ts = [node]) :
    statementNodes ("PRINT" :: ts) = [printWord, node] := by
  have value : (foldAll (ts.map (classify false))).nodes = [node] := read
  show (foldAll (printWord :: ts.map (classify false))).nodes = _
  rw [Fold.nodes_foldAll_cons_inert inert_printWord (allGrown_map_classify ts).known, value]

end Source

/-! ## 3. What they do -/

namespace Interpreter

/-- What a turn that assigns the value of an expression comes to.  If there is a value, the scalar
has it afterwards and all else is as it was; if there is none, nothing has changed. -/
inductive Assigned (i : Interpreter) (x : String) (t : Turn (Option Error)) :
    Except EvalError Float → Prop
  | value {v : Float} (answer : t.answer = none) (writes : t.writes = [])
      (program : t.interpreter.program = i.program) (scalar : t.interpreter.store.scalar x = v)
      (sets : i.store.Sets t.interpreter.store (.setScalar x v)) : Assigned i x t (.ok v)
  | failure {e : EvalError} (answer : t.answer = some (.evaluation e)) (writes : t.writes = [])
      (same : t.interpreter = i) : Assigned i x t (.error e)

theorem Assigned.after {i : Interpreter} {x : String} {t : Turn (Option Error)}
    {result : Except EvalError Float} (h : Assigned i x t result) (notices : List Notice) :
    Assigned i x (t.after notices) result := by
  cases h with
  | value answer writes program scalar sets => exact .value answer writes program scalar sets
  | failure answer writes same => exact .failure answer writes same

/-- What printing a value comes to, if there is one. -/
def printed (out : Stream) (i : Interpreter) : Except EvalError Float → Turn (Option Error)
  | .ok v =>
    match out.failure with
    | none => ⟨i, [Number.text v ++ "\n"], [], none⟩
    | some reason => i.idle [] (some (.stream reason))
  | .error e => i.idle [] (some (.evaluation e))

end Interpreter

namespace Statement

variable (s : Store) (immediate : Bool)

theorem result_effect_assignment (x : String) (node : Node) :
    (effect s immediate (form x none node [])).result
      = ((evaluate s node).result.mapError Error.evaluation).map (Effect.setScalar x) := by
  have asked : effect s immediate (form x none node [])
      = valueOf s node >>= fun v => pure (Effect.setScalar x v) := rfl
  rw [asked, Traced.result_bind, valueOf, Traced.mapError]
  cases (evaluate s node).result <;> rfl

variable {node : Node}

theorem arguments_operand (operand : node.isOperand) :
    arguments s [node] = valueOf s node >>= fun v => pure [Number.text v] := by
  cases node with
  | hole => cases operand
  | mk kind value children =>
    cases kind with
    | number => rfl
    | float => rfl
    | identifier => rfl
    | expression => rfl
    | _ => cases operand

theorem result_effect_printing (operand : node.isOperand) :
    (effect s immediate [Source.printWord, node]).result
      = ((evaluate s node).result.mapError Error.evaluation).map
          fun v => Effect.write (Number.text v ++ "\n") := by
  have asked : effect s immediate [Source.printWord, node]
      = arguments s [node]
        >>= fun texts => pure (Effect.write (" ".intercalate texts ++ "\n")) := rfl
  rw [asked, arguments_operand s operand, Traced.result_bind, Traced.result_bind, valueOf,
    Traced.mapError]
  cases (evaluate s node).result <;> rfl

end Statement

namespace Interpreter

variable (out : Stream) (i : Interpreter) (immediate : Bool) {node : Node}

theorem assigned_perform (x : String) (v : Float) :
    i.Assigned x (i.perform out (.setScalar x v)) (.ok v) := by
  have sets := i.store.sets_setScalar x v
  exact .value rfl rfl rfl sets.scalar_eq sets

/-- **An assignment gives its variable the value of its expression.** -/
theorem assigned_executeStatement (x : String) (node : Node) :
    i.Assigned x (i.executeStatement out immediate (form x none node []))
      (evaluate i.store node).result := by
  have asked := Statement.result_effect_assignment i.store immediate x node
  rw [executeStatement, carryOut, asked]
  cases (evaluate i.store node).result with
  | error e => exact .failure rfl rfl rfl
  | ok v => exact (i.assigned_perform out x v).after _

/-- **PRINT writes the value of its expression.** -/
theorem quiet_printing (operand : node.isOperand) :
    (i.executeStatement out immediate [Source.printWord, node]).quiet
      = i.printed out (evaluate i.store node).result := by
  have asked := Statement.result_effect_printing i.store immediate operand
  rw [executeStatement, carryOut, asked]
  cases (evaluate i.store node).result with
  | error e => rfl
  | ok v =>
    show (i.perform out (.write _)).quiet = _
    cases hout : out.failure <;> simp [perform, printed, hout, Turn.quiet, idle]

end Interpreter

/-! ## 4. Their texts -/

namespace Token

theorem isToken_print : IsToken "PRINT".toList :=
  .word (@IsStem.mk [] 'P' ['R', 'I', 'N', 'T'] .nothing (by decide) (by simp))

theorem isToken_equals : IsToken "=".toList := .symbol (by decide)

theorem tokens_assignment {x : String} (hx : IsToken x.toList) (text : String) :
    tokens ("LET " ++ x ++ " = " ++ text) = "LET" :: x :: "=" :: tokens text := by
  have spelled : "LET " ++ x ++ " = " ++ text
      = "LET" ++ " " ++ (x ++ " " ++ ("=" ++ " " ++ text)) :=
    String.toList_injective (by simp)
  rw [spelled, tokens_token_append isToken_let, tokens_token_append hx,
    tokens_token_append isToken_equals]

theorem tokens_printing (text : String) : tokens ("PRINT " ++ text) = "PRINT" :: tokens text :=
  tokens_token_append isToken_print text

end Token

theorem isStatementText_of_tokens {text t : String} {ts : List String}
    (spelled : Token.tokens text = t :: ts)
    (oneLine : Token.newline ∉ t :: ts) (unnumbered : Source.isAllDigits t = false) :
    IsStatementText text where
  nonempty := by simp [spelled]
  oneLine := by rwa [spelled]
  unnumbered := by simpa [spelled] using unnumbered

/-- **An expression folds the same wherever it stands in a line.**  A node that can be in no window
separates the two sides of a list.  So a text that is read as one value stands for the same tree
behind `LET x =` and behind `PRINT`, and the value assigned or printed is the value of that tree.
This is about tokens, since `x` may be a string without an end; any other `x` can be written before
a blank, and then it holds of the texts that are entered. -/
theorem Source.expression_in_line :
    (∀ (kind : Kind) (value : String) (b : Node) (xs ys : List Node),
      Inert b → AllKnown xs → AllKnown ys →
      (Node.mk kind value (xs ++ b :: ys)).fold.node
        = .mk kind value ((Node.mk kind value xs).fold.node.children
            ++ b :: (Node.mk kind value ys).fold.node.children))
    ∧ ∀ (x text : String) (node : Node), kindOf false x = .identifier →
        (readExpression text).value = ⟨node, true⟩ → node.isOperand →
        (readTokens ("LET" :: x :: "=" :: Token.tokens text)).value = [⟨form x none node []⟩]
        ∧ (readTokens ("PRINT" :: Token.tokens text)).value = [⟨[printWord, node]⟩]
        ∧ ∀ (out : Stream) (i : Interpreter),
            (∀ immediate,
              i.Assigned x (i.executeStatement out immediate (form x none node []))
                (evaluate i.store node).result
              ∧ (i.executeStatement out immediate [printWord, node]).quiet
                = i.printed out (evaluate i.store node).result)
            ∧ (IsToken x.toList →
                i.Assigned x (i.enter out ("LET " ++ x ++ " = " ++ text))
                  (evaluate i.store node).result)
            ∧ (i.enter out ("PRINT " ++ text)).quiet
              = i.printed out (evaluate i.store node).result := by
  constructor
  · intro kind value b xs ys inert hxs hys
    exact Node.fold_barrier inert hxs hys kind value
  · intro x text node hx read operand
    obtain ⟨oneLine, folded⟩ := readExpression_complete_iff.mp read
    have name : Token.newline ≠ x := by
      rintro rfl
      cases hx
    have assignmentLine : Token.newline ∉ "LET" :: x :: "=" :: Token.tokens text :=
      List.not_mem_cons_of_ne_of_not_mem (by decide) (List.not_mem_cons_of_ne_of_not_mem name
        (List.not_mem_cons_of_ne_of_not_mem (by decide) oneLine))
    have printingLine : Token.newline ∉ "PRINT" :: Token.tokens text :=
      List.not_mem_cons_of_ne_of_not_mem (by decide) oneLine
    have assignmentNodes := statementNodes_assignment hx folded
    have printingNodes := statementNodes_printing folded
    refine ⟨?_, ?_, fun out i => ⟨fun immediate => ⟨?_, ?_⟩, fun token => ?_, ?_⟩⟩
    · rw [readTokens_unnumbered assignmentLine (by decide), assignmentNodes]
    · rw [readTokens_unnumbered printingLine (by decide), printingNodes]
    · exact i.assigned_executeStatement out immediate x node
    · exact i.quiet_printing out immediate operand
    · have spelled := Token.tokens_assignment token text
      rw [i.enter_immediate out (isStatementText_of_tokens spelled assignmentLine (by decide)),
        spelled, assignmentNodes]
      exact (i.assigned_executeStatement out true x node).after _
    · have spelled := Token.tokens_printing text
      rw [i.enter_immediate out (isStatementText_of_tokens spelled printingLine (by decide)),
        Turn.quiet_after, spelled, printingNodes, i.quiet_printing out true operand]

/-- The index before an equals sign and the sum behind it are folded apart; a product in a sum is
assigned and printed as it is read alone. -/
theorem Source.expression_in_line_product :
    let element := ["A", "(", "2", ")"].map (classify false)
    let sum := ["3", "+", "4"].map (classify false)
    let i := Interpreter.new 10
    (Inert (.leaf .symbol "=") ∧ AllKnown element ∧ AllKnown sum
      ∧ (Node.line (element ++ .leaf .symbol "=" :: sum)).fold.node
        = .line ((Node.line element).fold.node.children
            ++ .leaf .symbol "=" :: (Node.line sum).fold.node.children))
    ∧ kindOf false "B" = .identifier ∧ IsToken "B".toList
    ∧ ∃ node, (readExpression "1 + 2 * 3").value = ⟨node, true⟩ ∧ node.isOperand
        ∧ i.Assigned "B" (i.enter {} "LET B = 1 + 2 * 3") (evaluate i.store node).result
        ∧ (i.enter {} "LET B = 1 + 2 * 3").interpreter.store.scalar "B" = 7
        ∧ (i.enter {} "PRINT 1 + 2 * 3").writes = ["7\n"] := by
  intro element sum i
  have hxs : AllKnown element := (allGrown_map_classify _).known
  have hys : AllKnown sum := (allGrown_map_classify _).known
  let plus : Expression.Operator := ⟨.leaf .symbol "+", by decide⟩
  let times : Expression.Operator := ⟨.leaf .symbol "*", by decide⟩
  let tree : Expression.Tree := .operation (.atom ⟨.leaf .number "1", rfl⟩) plus
    (.operation (.atom ⟨.leaf .number "2", rfl⟩) times (.atom ⟨.leaf .number "3", rfl⟩))
  have name : IsToken "B".toList :=
    .word (@Token.IsStem.mk [] 'B' [] .nothing (by decide) (by simp))
  have read : (readExpression "1 + 2 * 3").value = ⟨tree.node, true⟩ :=
    Expression.Tree.readExpression_of_ordered (by decide) rfl
  have worth : (evaluate i.store tree.node).result.toOption = some 7 := by decide +kernel
  have text : (i.printed {} (evaluate i.store tree.node).result).writes = ["7\n"] := by
    decide +kernel
  obtain ⟨-, -, executed⟩ := expression_in_line.2 "B" "1 + 2 * 3" tree.node (by decide) read rfl
  obtain ⟨-, assigned, printed⟩ := executed {} i
  have turn := assigned name
  have value : (i.enter {} "LET B = 1 + 2 * 3").interpreter.store.scalar "B" = 7 := by
    generalize (evaluate i.store tree.node).result = result at turn worth
    cases turn with
    | value _ _ _ scalar _ => exact scalar.trans (Option.some.inj worth)
    | failure => cases worth
  exact ⟨⟨Statement.inert_equals, hxs, hys,
      expression_in_line.1 .line "" _ element sum Statement.inert_equals hxs hys⟩,
    by decide, name, tree.node, read, rfl, turn, value, (congrArg Turn.writes printed).trans text⟩

end LineBasic
