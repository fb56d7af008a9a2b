/-
# Sets of characters by ranges of code points

The character classes of this library are properties of the Unicode standard, all in its
version 13.0.  Outside ASCII each is a table of closed ranges `(low, high)`, ascending and
disjoint; inside ASCII each has a rule of its own, so that reasoning about ASCII text never
opens a table.
-/

namespace LineBasic.Text

/-- A table of closed ranges of code points. -/
abbrev CodePoints := Array (Nat × Nat)

/-- Some range of the table holds the character. -/
def CodePoints.contains (ranges : CodePoints) (c : Char) : Bool :=
  ranges.any fun (low, high) => low ≤ c.toNat && c.toNat ≤ high

end LineBasic.Text
