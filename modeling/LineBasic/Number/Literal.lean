/-
# Numeric literals

A literal is an optional sign, digits with at most one point and at least one digit, and an
optional exponent: `E` or `e`, an optional sign, at least one digit.  Its value is the nearest
double, a tie going to the even significand; too large a literal is an infinity and too small
a one a zero, neither of them an error.
-/
import LineBasic.Number.Binary64

namespace LineBasic.Number

/-- A decimal, `± coefficient * 10^exponent`. -/
structure Decimal where
  negative : Bool
  coefficient : Nat
  exponent : Int
  deriving DecidableEq, Repr

/-- The number that a list of ASCII digits stands for. -/
def ofDigits (cs : List Char) : Nat :=
  cs.foldl (fun n c => 10 * n + (c.toNat - '0'.toNat)) 0

/-- A sign, if one stands first, and the rest. -/
def takeSign : List Char → Bool × List Char
  | '+' :: rest => (false, rest)
  | '-' :: rest => (true, rest)
  | cs => (false, cs)

/-- A point and the digits after it, if a point stands first, and the rest. -/
def takeFraction : List Char → List Char × List Char
  | '.' :: rest => rest.span Char.isDigit
  | cs => ([], cs)

/-- The exponent that ends a literal: nothing, or a mark, an optional sign and digits. -/
def exponent? : List Char → Option Int
  | [] => some 0
  | mark :: rest =>
    if mark = 'E' || mark = 'e' then
      let (negative, digits) := takeSign rest
      if digits.isEmpty || !digits.all Char.isDigit then none
      else some (if negative then -(ofDigits digits : Int) else ofDigits digits)
    else none

/-- The decimal that a literal stands for. -/
def Decimal.read? (cs : List Char) : Option Decimal :=
  let (negative, cs) := takeSign cs
  let (front, cs) := cs.span Char.isDigit
  let (back, cs) := takeFraction cs
  if front.isEmpty && back.isEmpty then none
  else (exponent? cs).map fun e => ⟨negative, ofDigits (front ++ back), e - back.length⟩

/-- The nearest double.  Decimals of 10^400 and more are infinite, those below 10^-400 are zero,
and are not computed with. -/
def Decimal.toFloat (d : Decimal) : Float :=
  let leading := d.exponent + (Nat.toDigits 10 d.coefficient).length
  if d.coefficient = 0 || leading < -400 then ofPattern d.negative 0
  else if 400 < leading then ofPattern d.negative infinityPattern
  else
    ofRatio d.negative (d.coefficient * Nat.pow 10 d.exponent.toNat)
      (Nat.pow 10 (-d.exponent).toNat)

/-- The characters of a literal. -/
def isLiteralChar (c : Char) : Bool :=
  c.isDigit || c = '.' || c = 'E' || c = 'e' || c = '+' || c = '-'

/-- The value of a literal, if the text is one. -/
def literal? (s : String) : Option Float :=
  if s.toList.all isLiteralChar then (Decimal.read? s.toList).map Decimal.toFloat else none

end LineBasic.Number
