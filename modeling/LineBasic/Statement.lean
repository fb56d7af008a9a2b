/-
# Statements

A statement is understood in two steps.  First its nodes and the store give an effect: a scalar
or an element to set, or a text to write.  This step may fail, and changes nothing.  Then the
effect is carried out (in `Interpreter`).  So a statement that fails while its values are
worked out has done nothing at all.

    LET ⟨identifier⟩ = ⟨value⟩
    LET ⟨identifier⟩ ( ⟨index⟩ ) = ⟨value⟩
    PRINT ⟨string or value⟩ …
-/
import LineBasic.Evaluation
import LineBasic.Source

namespace LineBasic

/-- What a statement asks for. -/
inductive Effect where
  | setScalar (name : String) (value : Float)
  | setElement (name : String) (index value : Float)
  | write (text : String)

namespace Statement

/-- The value of a node, for a statement. -/
def valueOf (s : Store) (n : Node) : Traced Error Float :=
  (evaluate s n).mapError Error.evaluation

/-- A failure of a statement. -/
def fail {α : Type} (e : Error) : Traced Error α := .fail e

/-- An empty place was met where a node is needed. -/
def emptyPlace {α : Type} : Traced Error α := fail (.fault .emptyPlace)

/-! ## 1. LET -/

/-- The rest of an assignment to an element, from the equals sign on. -/
def assignElement (s : Store) (name : String) (index : Float) : List Node → Traced Error Effect
  | [] => fail (.missingEquals (.element name))
  | equals :: rest =>
    if equals.isSymbol "=" then
      match rest with
      | [] => fail (.missingValue (.element name))
      | value :: _ => do return .setElement name index (← valueOf s value)
    else fail (.missingEquals (.element name))

/-- The rest of an assignment to a scalar, after the equals sign. -/
def assignScalar (s : Store) (name : String) : List Node → Traced Error Effect
  | [] => fail (.missingValue (.scalar name))
  | value :: _ => do return .setScalar name (← valueOf s value)

/-- The rest of an assignment, after the identifier.  An expression there is an index. -/
def assignTo (s : Store) (name : String) : List Node → Traced Error Effect
  | [] => fail (.missingEquals (.scalar name))
  | .hole :: _ => emptyPlace
  | next :: rest =>
    if next.kind? = some .expression then do
      let index ← valueOf s next
      assignElement s name index rest
    else if next.isSymbol "=" then assignScalar s name rest
    else fail (.missingEquals (.scalar name))

/-- The rest of an assignment, after its keyword. -/
def assignAfterLet (s : Store) : List Node → Traced Error Effect
  | [] => fail .missingVariable
  | .hole :: _ => emptyPlace
  | .mk kind name _ :: rest =>
    if kind = .identifier then assignTo s name rest else fail .missingVariable

/-- What an assignment asks for.  Nodes after the assigned value do not matter. -/
def assignment (s : Store) : List Node → Traced Error Effect
  | [] => fail .missingLet
  | .hole :: _ => emptyPlace
  | .mk kind value _ :: rest =>
    if kind = .statementName && value = "LET" then assignAfterLet s rest else fail .missingLet

/-! ## 2. PRINT -/

/-- A string literal without its quotes: one at the front and one at the end, if there are. -/
def unquote (literal : String) : String :=
  let cs := literal.toList
  let cs := if cs.head? = some '"' then cs.drop 1 else cs
  String.ofList (if cs.getLast? = some '"' then cs.dropLast else cs)

/-- The texts that the arguments of PRINT stand for.  Semicolons and commas separate arguments
and stand for nothing. -/
def arguments (s : Store) : List Node → Traced Error (List String)
  | [] => .ok []
  | .hole :: _ => emptyPlace
  | .mk kind value children :: rest =>
    let n := Node.mk kind value children
    if kind = .string then do return unquote value :: (← arguments s rest)
    else if n.isSymbol ";" || n.isSymbol "," then arguments s rest
    else do
      let x ← valueOf s n
      return Number.text x :: (← arguments s rest)

/-- What a PRINT statement asks for: its arguments on one line, separated by blanks. -/
def printing (s : Store) : List Node → Traced Error Effect
  | [] => fail (.unknownStatement "PRINT expected")
  | .hole :: _ => emptyPlace
  | .mk kind value _ :: rest =>
    if kind = .statementName && value = "PRINT" then do
      return .write (" ".intercalate (← arguments s rest) ++ "\n")
    else fail (.unknownStatement "PRINT expected")

/-! ## 3. Any statement -/

/-- What a statement asks for.  An immediate assignment may leave out its `LET`; one in a program
line has been given it when the line was read. -/
def effect (s : Store) (immediate : Bool) : List Node → Traced Error Effect
  | [] => fail (.unknownStatement "empty statement")
  | .hole :: _ => emptyPlace
  | .mk kind value children :: rest =>
    let statement := Node.mk kind value children :: rest
    if kind = .statementName && value = "LET" then assignment s statement
    else if kind = .statementName && value = "PRINT" then printing s statement
    else if kind = .identifier && immediate then assignment s (Source.letWord :: statement)
    else fail (.unknownStatement value)

end Statement

end LineBasic
