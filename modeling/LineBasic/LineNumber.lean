/-
# Line numbers

A line number is written in ASCII digits and is at most 65535; leading zeros do not matter.  A
text is scanned from left to right and the first trouble met is the one reported, so a number
that is already too large is out of range whatever follows it.
-/
import LineBasic.Error

namespace LineBasic.LineNumber

/-- Scans on after digits of value `n`. -/
def scan (n : Nat) : List Char → Except LineNumberProblem Nat
  | [] => .ok n
  | c :: cs =>
    if c.isDigit then
      let n := 10 * n + (c.toNat - '0'.toNat)
      if 65535 < n then .error .outOfRange else scan n cs
    else .error .malformed

/-- The number that a text stands for. -/
def parse (text : String) : Except LineNumberProblem UInt16 :=
  match text.toList with
  | [] => .error .malformed
  | cs => (scan 0 cs).map UInt16.ofNat

end LineBasic.LineNumber
