/-
# Tables

A table is drawn with light box lines: a column is as wide as its widest cell, with a blank on
each side, and cells are flush left.  A title spans all columns; a header stands between rules.
There are no lines between rows.

In a cell a tab is four blanks, a carriage return goes back to the start of the line and writes
over it, and a newline makes the row taller.
-/
import LineBasic.Text.Width

namespace LineBasic.Display

/-- A table: an optional title, an optional header (empty if there is none), and rows. -/
structure Table where
  title : Option String
  header : List String
  rows : List (List String)

/-! ## 1. Cells -/

/-- Writes `c` at a place of a line, over what is there, or at its end. -/
def overwrite (line : List Char) (place : Nat) (c : Char) : List Char :=
  if place < line.length then line.set place c else line ++ [c]

/-- A line as a terminal shows it, from a place on: a carriage return goes back to the start. -/
def typeOver (line : List Char) (place : Nat) : List Char → List Char
  | [] => line
  | '\r' :: cs => typeOver line 0 cs
  | c :: cs => typeOver (overwrite line place c) (place + 1) cs

/-- The parts of a text between newlines, the first of them continuing `current`, which is held
in reverse. -/
def splitLines (current : List Char) : List Char → List (List Char)
  | [] => [current.reverse]
  | '\n' :: cs => current.reverse :: splitLines [] cs
  | '\r' :: '\n' :: cs => current.reverse :: splitLines [] cs
  | c :: cs => splitLines (c :: current) cs

/-- The lines of a cell. -/
def cellLines (s : String) : List (List Char) :=
  let spread := s.toList.flatMap fun c => if c = '\t' then List.replicate 4 ' ' else [c]
  (splitLines [] spread).map fun line => if line.contains '\r' then typeOver [] 0 line else line

/-- The width of the widest line of a cell. -/
def cellWidth (cell : List (List Char)) : Nat := (cell.map Text.lineWidth).foldl max 0

/-- A line of a cell, filled with blanks to a width. -/
def pad (width : Nat) (line : List Char) : List Char :=
  line ++ List.replicate (width - Text.lineWidth line) ' '

/-! ## 2. Rows -/

/-- The widths of the columns. -/
def columnWidths (rows : List (List (List (List Char)))) : List Nat :=
  let count := (rows.map List.length).foldl max 0
  (List.range count).map fun column =>
    (rows.map fun row => cellWidth (row[column]?.getD [])).foldl max 0

/-- A horizontal rule with its left end, its crossings and its right end. -/
def rule (left crossing right : Char) (widths : List Nat) : List Char :=
  let bars := widths.map fun w => List.replicate (w + 2) '─'
  left :: [crossing].intercalate bars ++ [right]

/-- One line of a row. -/
def rowLine (widths : List Nat) (lines : List (List Char)) : List Char :=
  let cells := widths.mapIdx fun column w => ' ' :: pad w (lines[column]?.getD []) ++ [' ']
  '│' :: ['│'].intercalate cells ++ ['│']

/-- The lines of a row: as many as its tallest cell has.  An empty row leaves none. -/
def rowLines (widths : List Nat) (row : List (List (List Char))) : List (List Char) :=
  let height := (row.map List.length).foldl max 0
  (List.range height).map fun index => rowLine widths (row.map fun cell => cell[index]?.getD [])

/-! ## 3. Tables -/

/-- The line of a title, across all columns. -/
def titleLine (widths : List Nat) (title : String) : List Char :=
  let inner := widths.foldl (fun n w => n + w + 3) 0 - 1
  '│' :: ' ' :: pad (inner - 2) title.toList ++ [' ', '│']

/-- The lines of a table. -/
def Table.lines (t : Table) : List (List Char) :=
  let header := t.header.map cellLines
  let rows := t.rows.map (·.map cellLines)
  let widths := columnWidths (header :: rows)
  let top := match t.title with
    | some title => [rule '┌' '─' '┐' widths, titleLine widths title, rule '├' '┬' '┤' widths]
    | none => [rule '┌' '┬' '┐' widths]
  let head := if header.isEmpty then [] else rowLines widths header ++ [rule '├' '┼' '┤' widths]
  if widths.isEmpty then []
  else top ++ head ++ rows.flatMap (rowLines widths) ++ [rule '└' '┴' '┘' widths]

/-- A table as text, without a newline at its end. -/
def Table.text (t : Table) : String := String.ofList (['\n'].intercalate t.lines)

end LineBasic.Display
