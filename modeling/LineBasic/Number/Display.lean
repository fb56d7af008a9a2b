/-
# Numbers as text

A number is written with the fewest digits that read back.  A `Layout` holds the decisions of
a format: which exponents are written positionally and what the values that are no numbers are
called.  Exponents have a sign and at least two digits.
-/
import LineBasic.Number.Shortest

namespace LineBasic.Number

/-- The decisions of a number format. -/
structure Layout where
  /-- The least exponent of the first digit that is written positionally. -/
  least : Int
  /-- The first exponent above that is not. -/
  bound : Int
  nan : String
  positiveInfinity : String
  negativeInfinity : String

/-- The format of PRINT, of tables and of messages. -/
def plain : Layout := ⟨-4, 6, "NaN", "+Inf", "-Inf"⟩

/-- Digits with a point at its place and zeros where digits are missing. -/
def positional (s : Scientific) : List Char :=
  if s.exponent < 0 then
    '0' :: '.' :: (List.replicate (-s.exponent - 1).toNat '0' ++ s.digits)
  else
    let places := s.exponent.toNat + 1
    let front := s.digits.take places
    let back := s.digits.drop places
    front ++ List.replicate (places - front.length) '0'
      ++ (if back.isEmpty then [] else '.' :: back)

/-- Digits with a point after the first, and an exponent. -/
def exponential (s : Scientific) : List Char :=
  let size := Nat.toDigits 10 s.exponent.natAbs
  s.digits.take 1 ++ (if s.digits.length ≤ 1 then [] else '.' :: s.digits.drop 1)
    ++ ['e', if s.exponent < 0 then '-' else '+']
    ++ List.replicate (2 - size.length) '0' ++ size

/-- A double in a layout. -/
def Layout.text (layout : Layout) (x : Float) : String :=
  let sign := if isNegative x then "-" else ""
  match Binary64.ofFloat x with
  | .nan => layout.nan
  | .infinite negative => if negative then layout.negativeInfinity else layout.positiveInfinity
  | .finite _ 0 => sign ++ "0"
  | .finite _ _ =>
    let s := shortest (magnitudePattern x)
    let body :=
      if s.exponent < layout.least || layout.bound ≤ s.exponent then exponential s
      else positional s
    sign ++ String.ofList body

/-- A number as PRINT writes it. -/
def text (x : Float) : String := plain.text x

end LineBasic.Number
