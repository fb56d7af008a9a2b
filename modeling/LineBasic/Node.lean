/-
# Parse trees

A program is a tree of lines, a line a list of nodes.  Program, line and expression nodes have
children and an empty value; all other nodes are leaves that carry a token as their value.
Trees read from a text hold known kinds only and no empty place; the operations here are also
defined on trees put together by hand, where they may end in a fault.
-/
import LineBasic.Fault
import LineBasic.Text.Blank

namespace LineBasic

/-! ## 1. Kinds -/

/-- What a node stands for. -/
inductive Kind where
  | program
  | line
  | lineNumber
  | statementName
  | string
  | number
  | float
  | identifier
  | symbol
  | expression
  /-- A kind that no operation knows. -/
  | other (code : Int)
  deriving DecidableEq, Repr

/-- The kind with a code. -/
def Kind.ofCode : Int → Kind
  | 0 => .program
  | 1 => .line
  | 2 => .lineNumber
  | 3 => .statementName
  | 4 => .string
  | 5 => .number
  | 6 => .float
  | 7 => .identifier
  | 8 => .symbol
  | 9 => .expression
  | code => .other code

/-- The name of a kind. -/
def Kind.name : Kind → String
  | .program => "Program"
  | .line => "Line"
  | .lineNumber => "LineNumber"
  | .statementName => "StatementName"
  | .string => "String"
  | .number => "Number"
  | .float => "Float"
  | .identifier => "Identifier"
  | .symbol => "Symbol"
  | .expression => "Expression"
  | .other code => s!"Kind({code})"

/-! ## 2. Nodes -/

/-- A parse tree. -/
inductive Node where
  /-- An empty place, where a node could stand. -/
  | hole
  | mk (kind : Kind) (value : String) (children : List Node)
  deriving Repr

namespace Node

instance : Inhabited Node := ⟨hole⟩

/-- A node without children. -/
def leaf (kind : Kind) (value : String) : Node := mk kind value []

/-- A line of nodes. -/
def line (nodes : List Node) : Node := mk .line "" nodes

/-- Three nodes joined to one value: two operands around an operator, or parentheses around a
value. -/
def expression (left middle right : Node) : Node := mk .expression "" [left, middle, right]

/-- The kind of a node, none for an empty place. -/
def kind? : Node → Option Kind
  | hole => none
  | mk kind _ _ => some kind

/-- The value of a node, empty for an empty place. -/
def value : Node → String
  | hole => ""
  | mk _ value _ => value

/-- The children of a node, none for an empty place. -/
def children : Node → List Node
  | hole => []
  | mk _ _ children => children

/-- The node is a symbol with the given text. -/
def isSymbol (text : String) : Node → Bool
  | mk .symbol value _ => value = text
  | _ => false

/-- The node is of a kind that never has children. -/
def isLeaf : Node → Except Fault Bool
  | hole => .error .emptyPlace
  | mk kind _ _ =>
    match kind with
    | .program | .line | .expression => .ok false
    | .other code => .error (.unknownKind code)
    | _ => .ok true

/-- The node may be an operand: a number, an identifier or an expression. -/
def isValue : Node → Except Fault Bool
  | hole => .ok false
  | mk kind _ _ =>
    match kind with
    | .number | .float | .identifier | .expression => .ok true
    | .other code => .error (.unknownKind code)
    | _ => .ok false

/-- The node is an expression in parentheses. -/
def isParenthesized : Node → Bool
  | mk .expression _ [left, _, right] => left.isSymbol "(" && right.isSymbol ")"
  | _ => false

/-! ## 3. Comparison -/

mutual

/-- Two trees agree in kinds, values and shape. -/
def equal : Node → Node → Bool
  | hole, hole => true
  | mk k v cs, mk k' v' cs' => k = k' && v = v' && equalAll cs cs'
  | _, _ => false

/-- Two lists of trees agree one by one. -/
def equalAll : List Node → List Node → Bool
  | [], [] => true
  | a :: as, b :: bs => equal a b && equalAll as bs
  | _, _ => false

end

/-! ## 4. Views as text -/

/-- Two blanks for each level of depth. -/
def indentation (depth : Nat) : String := String.ofList (List.replicate (2 * depth) ' ')

mutual

/-- The outline of a tree below a depth: one line per node in pre-order.  An empty place leaves
no line. -/
def dumpAt (depth : Nat) : Node → String
  | hole => ""
  | mk kind value children =>
    indentation depth ++ kind.name ++ " '" ++ value ++ "'\n" ++ dumpAllAt (depth + 1) children

/-- The outlines of a list of trees. -/
def dumpAllAt (depth : Nat) : List Node → String
  | [] => ""
  | n :: ns => dumpAt depth n ++ dumpAllAt depth ns

end

/-- The outline of a tree: one line per node in pre-order, indented by depth. -/
def dump (n : Node) : String := dumpAt 0 n

/-- A text without blanks and newlines at its end. -/
def trimEnd (s : String) : String :=
  String.ofList (Text.dropEndWhile (fun c => c = ' ' || c = '\n') s.toList)

mutual

/-- The leaves of a tree, each followed by a blank, the lines of a program each on a line of
its own. -/
def spell : Node → Except Fault String
  | hole => .error .emptyPlace
  | mk kind value children =>
    match kind with
    | .program => spellLines children
    | .line | .expression => spellAll children
    | .other code => .error (.unknownKind code)
    | _ => .ok (value ++ " ")

/-- The leaves of a list of trees. -/
def spellAll : List Node → Except Fault String
  | [] => .ok ""
  | n :: ns => do
    let first ← spell n
    let rest ← spellAll ns
    return first ++ rest

/-- Trees as lines. -/
def spellLines : List Node → Except Fault String
  | [] => .ok ""
  | n :: ns => do
    let first ← spell n
    let rest ← spellLines ns
    return trimEnd first ++ "\n" ++ rest

end

/-- The source text of a tree: its leaves, separated by single blanks. -/
def text (n : Node) : Except Fault String := (spell n).map trimEnd

end Node

end LineBasic
