/-
# The shortest decimal that reads back

Every positive double owns the interval of reals that round to it: half a step to the next
double on each side, a quarter below a power of two, the ends included if its significand is
even.  On the grid of decimals with `n` digits at least one of the two neighbours of the value
lies in the interval if any grid point does, so the first `n` for which one of them does gives
the fewest digits; of two hits the nearer is taken, and of two equally near the even one.

All comparisons are between natural numbers: the value, the ends and the grid are brought over
one denominator.
-/
import LineBasic.Number.Binary64

namespace LineBasic.Number

/-- The number `digits * 10^exponent`, written d.ddd with the point after the first digit when the
exponent is read as that of the first digit. -/
structure Scientific where
  /-- The digits, the first not zero and the last not zero. -/
  digits : List Char
  /-- The power of ten of the first digit. -/
  exponent : Int
  deriving DecidableEq, Repr

/-- The power of ten of the first digit of `num / den`, both positive. -/
def leadingExponent (num den : Nat) : Int :=
  if den ≤ num then ((Nat.toDigits 10 (num / den)).length : Int) - 1
  else -((Nat.toDigits 10 ((den + num - 1) / num - 1)).length : Int)

/-- The reals that round to a double: `low / den` to `high / den` around `value / den`. -/
structure Interval where
  low : Nat
  value : Nat
  high : Nat
  den : Nat
  /-- The ends belong to the interval. -/
  closed : Bool

/-- The interval of a positive finite pattern. -/
def interval (pattern : Nat) : Interval :=
  let m := significand pattern
  let p := power pattern
  let below := if m = Nat.pow 2 52 && 0 < p then 1 else 2
  { low := (4 * m - below) * Nat.pow 2 p
    value := 4 * m * Nat.pow 2 p
    high := (4 * m + 2) * Nat.pow 2 p
    den := 4 * one
    closed := m % 2 = 0 }

/-- The decimal of the interval on the grid of step `10^-scale` that is nearest to the value, in
steps of the grid, if there is one. -/
def Interval.onGrid? (i : Interval) (scale : Int) : Option Nat :=
  let up := Nat.pow 10 scale.toNat
  let den := i.den * Nat.pow 10 (-scale).toNat
  let value := i.value * up
  let q := value / den
  let below := if i.closed then i.low * up ≤ q * den else i.low * up < q * den
  let above :=
    if i.closed then (q + 1) * den ≤ i.high * up else (q + 1) * den < i.high * up
  let rest := value % den
  if below && above then
    some (if 2 * rest < den || (2 * rest = den && q % 2 = 0) then q else q + 1)
  else if below then some q
  else if above then some (q + 1)
  else none

/-- The first of the grids with `n`, `n + 1`, … digits, `tries` of them, that has a decimal of the
interval; the decimal and the grid's scale. -/
def Interval.search (i : Interval) (leading : Int) : Nat → Nat → Option (Nat × Int)
  | 0, _ => none
  | tries + 1, n =>
    let scale := (n : Int) - 1 - leading
    match i.onGrid? scale with
    | some q => some (q, scale)
    | none => i.search leading tries (n + 1)

/-- The shortest decimal that reads back as the positive finite double with this pattern.
Seventeen digits always suffice. -/
def shortest (pattern : Nat) : Scientific :=
  let i := interval pattern
  match i.search (leadingExponent i.value i.den) 17 1 with
  | some (q, scale) =>
    let digits := Nat.toDigits 10 q
    { digits := (digits.reverse.dropWhile (· = '0')).reverse
      exponent := (digits.length : Int) - 1 - scale }
  | none => ⟨['0'], 0⟩

end LineBasic.Number
