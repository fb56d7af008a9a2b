/-
# Doubles as exact numbers

A double is not a number, an infinity, or a whole number of steps of 2^-1074 with a sign.
Everything exact in this library (reading literals, writing shortest decimals, checking array
indices) works on that view, in natural numbers, and never asks a floating-point operation.

A bit pattern `p * 2^52 + m` with `2^52 ≤ m < 2^53`, or with `p = 0` and `m < 2^52`, stands for
`m * 2^p` steps.  `pattern` goes back: it rounds a ratio to the nearest double, a tie to the
even significand.  Adding `p * 2^52` and `m` carries into the exponent by itself when `m` is
rounded up to `2^53`.
-/

namespace LineBasic.Number

/-- What a double stands for. -/
inductive Binary64 where
  | nan
  | infinite (negative : Bool)
  /-- So many steps of 2^-1074, with a sign that zero has too. -/
  | finite (negative : Bool) (steps : Nat)
  deriving DecidableEq, Repr

/-- The number one, in steps of 2^-1074. -/
def one : Nat := Nat.pow 2 1074

/-- The bit pattern of the positive infinity: every pattern from here on is not finite. -/
def infinityPattern : Nat := 0x7FF * Nat.pow 2 52

/-- The bit pattern of a double without its sign. -/
def magnitudePattern (x : Float) : Nat := x.toBits.toNat % Nat.pow 2 63

/-- The sign bit. -/
def isNegative (x : Float) : Bool := Nat.pow 2 63 ≤ x.toBits.toNat

/-- The power `p` of a finite pattern. -/
def power (pattern : Nat) : Nat := pattern / Nat.pow 2 52 - 1

/-- The significand `m` of a finite pattern. -/
def significand (pattern : Nat) : Nat := pattern - power pattern * Nat.pow 2 52

/-- What a double stands for. -/
def Binary64.ofFloat (x : Float) : Binary64 :=
  let pattern := magnitudePattern x
  if pattern < infinityPattern then
    .finite (isNegative x) (significand pattern * Nat.pow 2 (power pattern))
  else if pattern = infinityPattern then .infinite (isNegative x)
  else .nan

/-- The magnitude of a double that is a whole number. -/
def whole? (x : Float) : Option Nat :=
  match Binary64.ofFloat x with
  | .finite _ steps => if steps % one = 0 then some (steps / one) else none
  | _ => none

/-- The ratio `num / den` rounded to a natural number, a half to the even neighbour. -/
def roundDiv (num den : Nat) : Nat :=
  let q := num / den
  let r := num % den
  if den < 2 * r || (2 * r = den && q % 2 = 1) then q + 1 else q

/-- The bit pattern of the double nearest to `num / den`, the infinity's if that is beyond the
largest double. -/
def pattern (num den : Nat) : Nat :=
  let steps := num * one
  let p := Nat.log2 (steps / den) - 52
  min infinityPattern (roundDiv steps (den * Nat.pow 2 p) + p * Nat.pow 2 52)

/-- The double with a given sign and pattern. -/
def ofPattern (negative : Bool) (pattern : Nat) : Float :=
  Float.ofBits (UInt64.ofNat (pattern + if negative then Nat.pow 2 63 else 0))

/-- The double nearest to `num / den`, with a sign. -/
def ofRatio (negative : Bool) (num den : Nat) : Float := ofPattern negative (pattern num den)

/-- The positive infinity. -/
def infinity : Float := ofPattern false infinityPattern

/-- A double that is not a number. -/
def notANumber : Float := ofPattern false (infinityPattern + Nat.pow 2 51)

end LineBasic.Number
