/-
# Variables

A store holds scalars and arrays of numbers, by name.  A scalar that was never set is zero.  An
array comes into being when it is dimensioned or first accessed, even if that access fails; its
size never changes after that.

An index is a number like any other, so it is checked on the exact value it stands for: it has
to be a whole number, not negative (a negative zero is zero), and below the size of the array.
-/
import LineBasic.Error
import LineBasic.Notice
import LineBasic.Number.Binary64
import LineBasic.SortedMap

namespace LineBasic

/-! ## 1. Indices -/

/-- Why an index is not accepted. -/
inductive IndexProblem where
  /-- It is negative, no whole number, or no number at all. -/
  | invalid
  /-- It is a whole number beyond the end. -/
  | beyond
  deriving DecidableEq, Repr

/-- The position in an array of `size` elements that an index stands for. -/
def position (size : Nat) : Number.Binary64 → Except IndexProblem Nat
  | .nan => .error .invalid
  | .infinite negative => .error (if negative then .invalid else .beyond)
  | .finite negative steps =>
    if steps % Number.one ≠ 0 || (negative && steps ≠ 0) then .error .invalid
    else if size ≤ steps / Number.one then .error .beyond
    else .ok (steps / Number.one)

/-- The position that an index of a named array stands for. -/
def checkIndex (name : String) (index : Float) (size : Nat) : Except AccessError Nat :=
  match position size (Number.Binary64.ofFloat index) with
  | .ok i => .ok i
  | .error .invalid => .error (.invalidIndex name index)
  | .error .beyond => .error (.outOfBounds name index size)

/-! ## 2. Stores -/

/-- The variables of a program. -/
structure Store where
  scalars : SortedMap String Float
  arrays : SortedMap String (Array Float)
  /-- The size of an array that comes into being by access. -/
  arraySize : Nat

namespace Store

/-- The size of arrays if none is asked for. -/
def defaultArraySize : Nat := 10

/-- A store without variables.  An array size below one is ignored. -/
def empty (arraySize : Int) : Store :=
  ⟨.empty, .empty, if 0 < arraySize then arraySize.toNat else defaultArraySize⟩

/-- The value of a scalar. -/
def scalar (s : Store) (name : String) : Float := (s.scalars.find? name).getD 0.0

/-- Sets a scalar. -/
def setScalar (s : Store) (name : String) (value : Float) : Store :=
  { s with scalars := s.scalars.insert name value }

/-- An array, if it exists. -/
def array? (s : Store) (name : String) : Option (Array Float) := s.arrays.find? name

/-- The array of a name, made of `size` zeros if there was none, and whether there was none. -/
def dim (s : Store) (name : String) (size : Nat) : Store × Array Float × Bool :=
  match s.array? name with
  | some a => (s, a, false)
  | none =>
    let a := Array.replicate size 0.0
    ({ s with arrays := s.arrays.insert name a }, a, true)

/-- The array of a name, made of `size` zeros if there was none.  A size below zero is a fault if
the array has to be made. -/
def dimension (s : Store) (name : String) (size : Int) :
    Except Fault (Store × Array Float × Bool) :=
  if size < 0 && (s.array? name).isNone then .error .negativeLength
  else .ok (s.dim name size.toNat)

/-- The element of an array, which is made first if there was none. -/
def element (s : Store) (name : String) (index : Float) : Store × Except AccessError Float :=
  let (s, a, _) := s.dim name s.arraySize
  (s, (checkIndex name index a.size).map fun i => a[i]?.getD 0.0)

/-- Sets the element of an array, which is made first if there was none. -/
def setElement (s : Store) (name : String) (index value : Float) :
    Store × Except AccessError Unit :=
  let (s, a, _) := s.dim name s.arraySize
  match checkIndex name index a.size with
  | .error e => (s, .error e)
  | .ok i => ({ s with arrays := s.arrays.insert name (a.setIfInBounds i value) }, .ok ())

/-- What a store holds, by name. -/
structure Snapshot where
  scalars : List (String × Float)
  arrays : List (String × Array Float)

/-- A copy of what a store holds. -/
def snapshot (s : Store) : Snapshot := ⟨s.scalars.entries, s.arrays.entries⟩

/-- The names of the scalars, in order. -/
def scalarNames (s : Store) : List String := s.scalars.keys

/-- The names of the arrays, in order. -/
def arrayNames (s : Store) : List String := s.arrays.keys

/-! ## 3. Notices -/

/-- A notice about a variable. -/
def noticeOf (name text : String) : Notice :=
  ⟨.variables, .debug, "[var=" ++ name ++ "] " ++ text⟩

/-- What is reported when a scalar is set. -/
def scalarNotices (name : String) (value : Float) : List Notice :=
  [noticeOf name (name ++ " = " ++ Number.text value)]

/-- What is reported when the array of a name is asked for: that it is made, if it is. -/
def dimNotices (s : Store) (name : String) (size : Int) : List Notice :=
  match s.array? name with
  | some _ => []
  | none => [noticeOf name s!"creating array {name}({size})"]

/-- What is reported when an element is set. -/
def elementNotices (s : Store) (name : String) (index value : Float) : List Notice :=
  let (_, a, _) := s.dim name s.arraySize
  s.dimNotices name s.arraySize
    ++ match checkIndex name index a.size with
      | .error _ => []
      | .ok i => [noticeOf name (s!"{name}({i}) = " ++ Number.text value)]

end Store

end LineBasic
