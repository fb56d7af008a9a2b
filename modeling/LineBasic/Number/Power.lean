/-
# Powers

`x ^ y` follows the usual rules for zeros, infinities and values that are no numbers: `x ^ 0`
and `1 ^ y` are 1 whatever the other operand, and a negative base with a fractional exponent has
no value.  A whole exponent is taken bit by bit: the base is split into a fraction in [1/2, 1)
and a power of two, the fraction is squared and kept in that range, and the result is put
together at the end.  Each product is rounded, so the result need not be the nearest double;
the order of the products is part of the rule.
-/
import LineBasic.Number.Binary64

namespace LineBasic.Number

/-- Whether `x` is an odd whole number. -/
def isOdd (x : Float) : Bool :=
  match whole? x with
  | some n => n % 2 = 1
  | none => false

/-- The number `fraction * 2^scale`. -/
structure Scaled where
  fraction : Float
  scale : Int

/-- The square, with its fraction brought back to [1/2, 1). -/
def Scaled.square (x : Scaled) : Scaled :=
  let f := x.fraction * x.fraction
  if f < 0.5 then ⟨f + f, 2 * x.scale - 1⟩ else ⟨f, 2 * x.scale⟩

/-- The product, with no change of range. -/
def Scaled.times (x y : Scaled) : Scaled := ⟨x.fraction * y.fraction, x.scale + y.scale⟩

/-- The product `acc * x^n`, the exponent read from its lowest bit.  Once the scale of the base
is beyond 2^12 the result is out of range and only its scale goes on. -/
def Scaled.powerInto (acc x : Scaled) (n : Nat) : Scaled :=
  if n = 0 then acc
  else if x.scale < -4096 || 4096 < x.scale then { acc with scale := acc.scale + x.scale }
  else Scaled.powerInto (if n % 2 = 1 then acc.times x else acc) x.square (n / 2)
termination_by n
decreasing_by omega

/-- The power `x ^ n`, or its inverse, for finite `x` other than zero. -/
def wholePower (x : Float) (inverse : Bool) (n : Nat) : Float :=
  let (fraction, scale) := x.frExp
  let r := Scaled.powerInto ⟨1.0, 0⟩ ⟨fraction, scale⟩ n
  if inverse then (1.0 / r.fraction).scaleB (-r.scale) else r.fraction.scaleB r.scale

/-- A zero, positive or negative, raised to `y`, which is not zero. -/
def zeroPower (x y : Float) : Float :=
  if y < 0.0 then (if isNegative x && isOdd y then -infinity else infinity)
  else if isOdd y then x
  else 0.0

/-- The limit of `x ^ y` for a huge `y` that is even or infinite. -/
def farPower (x y : Float) : Float :=
  if x == -1.0 then 1.0
  else if (x.abs < 1.0) == (0.0 < y) then 0.0
  else infinity

/-- The power `x ^ y`. -/
def pow (x y : Float) : Float :=
  if y == 0.0 || x == 1.0 then 1.0
  else if y == 1.0 then x
  else if x.isNaN || y.isNaN then notANumber
  else if x == 0.0 then zeroPower x y
  else if y.isInf then farPower x y
  else if x.isInf then
    if x < 0.0 then zeroPower (-0.0) (-y) else if y < 0.0 then 0.0 else infinity
  else if y == 0.5 then x.sqrt
  else if y == -0.5 then 1.0 / x.sqrt
  else
    match whole? y with
    | none => if x < 0.0 then notANumber else Float.pow x y
    | some n => if Nat.pow 2 63 ≤ n then farPower x y else wholePower x (y < 0.0) n

end LineBasic.Number
