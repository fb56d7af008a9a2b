/-
# Faults

An operation on a tree or a store relies on conditions that every tree read from a text and
every store in use meets.  A tree put together by hand may fail them; the operation then ends
in a fault, which is not an error of the program being run.
-/

namespace LineBasic

/-- A condition that an operation relies on does not hold. -/
inductive Fault where
  /-- A node has a kind that no operation knows. -/
  | unknownKind (code : Int)
  /-- A place in a tree is empty where a node is needed. -/
  | emptyPlace
  /-- An array was asked to have a negative number of elements. -/
  | negativeLength
  deriving DecidableEq, Repr

/-- The text of a fault. -/
def Fault.message : Fault → String
  | .unknownKind code => s!"unknown node kind {code}"
  | .emptyPlace => "runtime error: invalid memory address or nil pointer dereference"
  | .negativeLength => "runtime error: makeslice: len out of range"

end LineBasic
