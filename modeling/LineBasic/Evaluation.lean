/-
# Values of expressions

Numbers are read as literals and identifiers are looked up in the store.  An expression is a
value in parentheses or an operator between two values; the left operand is evaluated first and
the first failure is the one reported.  Arithmetic is that of doubles: division by zero and
results out of range are no errors.

The parts of an expression are all given a meaning first (`evaluateAll`) and the meanings that
count are then combined, which keeps the recursion on the tree.
-/
import LineBasic.Number.Literal
import LineBasic.Number.Power
import LineBasic.Store
import LineBasic.Traced

namespace LineBasic

/-- The operation that a symbol stands for. -/
def operation? : String → Option (Float → Float → Float)
  | "+" => some (· + ·)
  | "-" => some (· - ·)
  | "*" => some (· * ·)
  | "/" => some (· / ·)
  | "^" => some Number.pow
  | _ => none

/-- What is reported of an operation. -/
def operationNotice (operator : String) (a b result : Float) : Notice :=
  ⟨.evaluator, .debug,
    Number.text a ++ " " ++ operator ++ " " ++ Number.text b ++ " = " ++ Number.text result⟩

/-- Applies the operator that a symbol stands for. -/
def applyOperator (operator : String) (a b : Float) : Traced EvalError Float :=
  match operation? operator with
  | some f => ⟨[operationNotice operator a b (f a b)], .ok (f a b)⟩
  | none => .fail (.unknownOperator operator)

/-- The value of an expression from the values of its three parts. -/
def combine (left middle : Node) (a b c : Traced EvalError Float) : Traced EvalError Float :=
  if left.isSymbol "(" then b
  else
    match middle with
    | .hole => .fail (.fault .emptyPlace)
    | .mk .symbol operator _ => do
      let a ← a
      let c ← c
      applyOperator operator a c
    | .mk kind value _ => .fail (.noOperator kind value)

/-- The value of a literal. -/
def literalValue (literal : String) : Traced EvalError Float :=
  match Number.literal? literal with
  | some x => .ok x
  | none => .fail (.malformedLiteral literal)

/-- The value of a node from the values of its children. -/
def nodeValue (s : Store) (kind : Kind) (value : String) (children : List Node)
    (values : List (Traced EvalError Float)) : Traced EvalError Float :=
  match kind with
  | .number | .float => literalValue value
  | .identifier => .ok (s.scalar value)
  | .expression =>
    match children, values with
    | [left, middle, _], [a, b, c] => combine left middle a b c
    | _, _ => .fail (.operandCount children.length)
  | _ => .fail (.unexpected kind value)

mutual

/-- The value of a tree in a store. -/
def evaluate (s : Store) : Node → Traced EvalError Float
  | .hole => .fail .nothing
  | .mk kind value children => nodeValue s kind value children (evaluateAll s children)

/-- The values of a list of trees, each for itself. -/
def evaluateAll (s : Store) : List Node → List (Traced EvalError Float)
  | [] => []
  | n :: ns => evaluate s n :: evaluateAll s ns

end

end LineBasic
