/-
# White space

The white space of the console: the ASCII blanks and line ends, and the spaces and separators
of other scripts, the no-break space among them.  A line is trimmed of it and cut into words
at it.
-/

namespace LineBasic.Text

/-- Whether `c` is white space. -/
def isBlank (c : Char) : Bool :=
  let n := c.toNat
  (0x09 ≤ n && n ≤ 0x0D) || n = 0x20 || n = 0x85 || n = 0xA0 || n = 0x1680
    || (0x2000 ≤ n && n ≤ 0x200A) || n = 0x2028 || n = 0x2029 || n = 0x202F || n = 0x205F
    || n = 0x3000

/-- A text without the characters of a class at its end. -/
def dropEndWhile (p : Char → Bool) (cs : List Char) : List Char :=
  (cs.reverse.dropWhile p).reverse

/-- A text without the characters of a class at both ends. -/
def trimBy (p : Char → Bool) (cs : List Char) : List Char :=
  dropEndWhile p (cs.dropWhile p)

/-- A text without white space at both ends. -/
def trim (s : String) : String := String.ofList (trimBy isBlank s.toList)

/-- The maximal runs without white space, the first of them continuing `current`, which is held
in reverse. -/
def wordsFrom : List Char → List Char → List (List Char)
  | [], [] => []
  | current, [] => [current.reverse]
  | current, c :: cs =>
    if isBlank c then
      match current with
      | [] => wordsFrom [] cs
      | _ => current.reverse :: wordsFrom [] cs
    else wordsFrom (c :: current) cs

/-- The words of a line: the maximal runs without white space. -/
def words (s : String) : List String := (wordsFrom [] s.toList).map String.ofList

end LineBasic.Text
