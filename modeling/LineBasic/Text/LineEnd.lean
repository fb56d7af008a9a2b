/-
# Line ends

Program files may end their lines with a carriage return and a newline.  Each such pair
becomes one newline before the text is read; a carriage return of its own stays.
-/

namespace LineBasic.Text

/-- Every pair of carriage return and newline becomes a newline. -/
def normalizeLineEnds : List Char → List Char
  | '\r' :: '\n' :: rest => '\n' :: normalizeLineEnds rest
  | c :: rest => c :: normalizeLineEnds rest
  | [] => []

/-- A source text with its line ends normalized. -/
def normalized (source : String) : String := String.ofList (normalizeLineEnds source.toList)

end LineBasic.Text
