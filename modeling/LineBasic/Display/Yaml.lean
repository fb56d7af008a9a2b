/-
# YAML

Values are written in block style.  A map or a list that is not empty starts on a new line,
indented to the next multiple of the indentation; inside a list item the indentation grows by
the two characters of its dash.

A text is written plainly where that cannot be mistaken.  It is put in double quotes if it
would be read as another kind of value or holds characters that have to be escaped, in single
quotes if its characters would mean something else, and as a literal block if it has several
lines.
-/
import LineBasic.Number.Display
import LineBasic.Number.Integer
import LineBasic.Number.Literal
import LineBasic.Text.Digit
import LineBasic.Text.Letter
import LineBasic.Text.Quoted

namespace LineBasic.Display.Yaml

/-! ## 1. Values -/

/-- A value. -/
inductive Value where
  | null
  | bool (b : Bool)
  | number (x : Float)
  | text (s : String)
  | list (items : List Value)
  /-- A map, its keys in the order in which they are written. -/
  | map (entries : List (String × Value))

instance : Inhabited Value := ⟨.null⟩

/-- Numbers are written as everywhere, but the values that are no numbers have other names. -/
def numberLayout : Number.Layout := ⟨-4, 6, ".nan", ".inf", "-.inf"⟩

/-! ## 2. The order of keys -/

/-- The number that digits stand for, after `n`. -/
def digitRun (n : Int) (digits : List Char) : Int :=
  digits.foldl (fun n c => 10 * n + ((c.toNat : Int) - '0'.toNat)) n

/-- The order of two keys at their first difference, after the characters `seen`, which are held
in reverse.  Letters come after other characters, unless digits stand before the difference;
numbers go by value. -/
def differ (seen : List Char) (x : Char) (xs : List Char) (y : Char) (ys : List Char) : Bool :=
  let afterDigit := (seen.head?.map Text.isDigit).getD false
  match Text.isLetter x, Text.isLetter y with
  | true, true => x < y
  | true, false => afterDigit
  | false, true => !afterDigit
  | false, false =>
    let significant := (seen.takeWhile Text.isDigit).any (· ≠ '0')
    let start : Int := if (x = '0' || y = '0') && significant then 1 else 0
    let a := (x :: xs).takeWhile Text.isDigit
    let b := (y :: ys).takeWhile Text.isDigit
    let an := digitRun start a
    let bn := digitRun start b
    if an ≠ bn then an < bn
    else if a.length ≠ b.length then a.length < b.length
    else x < y

/-- One key comes before another; a key comes before its continuations. -/
def keyBefore (seen : List Char) : List Char → List Char → Bool
  | _, [] => false
  | [], _ :: _ => true
  | x :: xs, y :: ys => if x = y then keyBefore (x :: seen) xs ys else differ seen x xs y ys

/-- A map with its keys in order. -/
def Value.ofEntries (entries : List (String × Value)) : Value :=
  .map (entries.mergeSort fun a b => !keyBefore [] b.1.toList a.1.toList)

/-! ## 3. Texts -/

/-- Words that are read as another kind of value. -/
def reserved : List String :=
  ["", "~", "null", "Null", "NULL", "true", "True", "TRUE", "false", "False", "FALSE",
    ".nan", ".NaN", ".NAN", ".inf", ".Inf", ".INF", "+.inf", "+.Inf", "+.INF",
    "-.inf", "-.Inf", "-.INF",
    "y", "Y", "yes", "Yes", "YES", "on", "On", "ON",
    "n", "N", "no", "No", "NO", "off", "Off", "OFF"]

/-- The text is read as an integer, underscores apart. -/
def isInteger (cs : List Char) : Bool :=
  let plain := cs.filter (· ≠ '_')
  match Number.integer (String.ofList plain), Number.magnitude plain with
  | .error _, .error _ => false
  | _, _ => true

/-- The text is read as a decimal within the range of doubles, underscores apart. -/
def isDecimal (cs : List Char) : Bool :=
  match Number.Decimal.read? (cs.filter (· ≠ '_')) with
  | some d => !d.toFloat.isInf
  | none => false

/-- The text is a date: a year of four digits, a month and a day, joined by dashes. -/
def isDate (cs : List Char) : Bool :=
  let (year, rest) := cs.span Char.isDigit
  let (month, rest) := (rest.drop 1).span Char.isDigit
  let day := rest.drop 1
  year.length = 4 && cs[4]? = some '-' && rest.head? = some '-'
    && 1 ≤ month.length && month.length ≤ 2 && 1 ≤ day.length && day.length ≤ 2
    && day.all Char.isDigit
    && 1 ≤ Number.ofDigits month && Number.ofDigits month ≤ 12
    && 1 ≤ Number.ofDigits day && Number.ofDigits day ≤ 31

/-- What follows the first group of a number in base sixty: groups of one or two digits below
sixty, each after a colon, the last perhaps with a fraction. -/
def isBase60Tail : Nat → List Char → Bool
  | 0, _ => false
  | fuel + 1, ':' :: rest =>
    let (group, rest) := rest.span Char.isDigit
    (group.length = 1 || (group.length = 2 && group.head?.any (· < '6')))
      && (rest.isEmpty || isBase60Tail fuel rest
        || (rest.head? = some '.' && (rest.drop 1).all fun c => c.isDigit || c = '_'))
  | _, _ => false

/-- The text is a number in base sixty. -/
def isBase60 (cs : List Char) : Bool :=
  let (_, cs) := Number.takeSign cs
  let rest := cs.dropWhile fun c => c.isDigit || c = '_'
  cs.head?.any Char.isDigit && isBase60Tail rest.length rest

/-- The text is read as another kind of value. -/
def isOther (s : String) : Bool :=
  let cs := s.toList
  reserved.contains s ||
    match cs with
    | c :: _ =>
      if c.isDigit || c = '+' || c = '-' then
        isInteger cs || isDecimal cs || isDate cs || isBase60 cs
      else c = '.' && isDecimal cs
    | [] => false

/-- Characters that need no escape: printable ones up to U+FFFD and the newline. -/
def isPlainChar (c : Char) : Bool :=
  let n := c.toNat
  n = 0x0A || (0x20 ≤ n && n ≤ 0x7E) || (0xA0 ≤ n && n ≤ 0xFFFD && n ≠ 0xFEFF)

/-- Characters that end a line. -/
def isBreak (c : Char) : Bool :=
  let n := c.toNat
  n = 0x0A || n = 0x0D || n = 0x85 || n = 0x2028 || n = 0x2029

/-- A blank, a tab or the end of the text stands first. -/
def atBlank : List Char → Bool
  | [] => true
  | c :: _ => c = ' ' || c = '\t'

/-- The first character of a text means something else there. -/
def startsIndicator : List Char → Bool
  | [] => false
  | c :: rest =>
    "#,[]\x7b\x7d&*!|>'\"%@`".toList.contains c
      || ((c = '?' || c = ':' || c = '-') && atBlank rest)

/-- A character after the first means something else: a colon before a blank, or a hash after
one. -/
def holdsIndicator (afterBlank : Bool) : List Char → Bool
  | [] => false
  | c :: rest =>
    (c = ':' && atBlank rest) || (c = '#' && afterBlank)
      || holdsIndicator (c = ' ' || c = '\t' || isBreak c) rest

/-- A blank stands next to the end of a line in the text: `before` says before it. -/
def blankAtBreak (before : Bool) : List Char → Bool
  | a :: b :: rest =>
    (if before then a = ' ' && isBreak b else isBreak a && b = ' ')
      || blankAtBreak before (b :: rest)
  | _ => false

/-- The text may be written without quotes. -/
def allowsPlain (s : String) : Bool :=
  let cs := s.toList
  let ends := fun (c : Char) => c = ' ' || isBreak c
  !(cs.head?.any ends) && !(cs.getLast?.any ends)
    && !("---".toList.isPrefixOf cs) && !("...".toList.isPrefixOf cs)
    && !startsIndicator cs && !holdsIndicator false (cs.drop 1)
    && cs.all isPlainChar && !cs.any isBreak

/-- The text may be written in single quotes. -/
def allowsSingle (s : String) : Bool :=
  let cs := s.toList
  cs.all isPlainChar && !blankAtBreak true cs && !blankAtBreak false cs

/-- The text may be written as a literal block. -/
def allowsBlock (s : String) : Bool :=
  let cs := s.toList
  cs.getLast? ≠ some ' ' && cs.all (fun c => isPlainChar c || c = '\t') && !blankAtBreak true cs

/-- How one character is written in double quotes. -/
def escaped (c : Char) : List Char :=
  let n := c.toNat
  if isPlainChar c && !isBreak c && c ≠ '"' && c ≠ '\\' then [c]
  else if n = 0x00 then ['\\', '0']
  else if n = 0x07 then ['\\', 'a']
  else if n = 0x08 then ['\\', 'b']
  else if n = 0x09 then ['\\', 't']
  else if n = 0x0A then ['\\', 'n']
  else if n = 0x0B then ['\\', 'v']
  else if n = 0x0C then ['\\', 'f']
  else if n = 0x0D then ['\\', 'r']
  else if n = 0x1B then ['\\', 'e']
  else if c = '"' || c = '\\' then ['\\', c]
  else if n = 0x85 then ['\\', 'N']
  else if n = 0x2028 then ['\\', 'L']
  else if n = 0x2029 then ['\\', 'P']
  else if n ≤ 0xFF then '\\' :: 'x' :: Text.hexDigits true 2 n
  else if n ≤ 0xFFFF then '\\' :: 'u' :: Text.hexDigits true 4 n
  else '\\' :: 'U' :: Text.hexDigits true 8 n

/-- A text in double quotes. -/
def doubleQuoted (s : String) : String :=
  String.ofList ('"' :: s.toList.flatMap escaped ++ ['"'])

/-- The single quote. -/
def apostrophe : Char := Char.ofNat 0x27

/-- A text in single quotes, with single quotes doubled. -/
def singleQuoted (s : String) : String :=
  let body := s.toList.flatMap fun c => if c = apostrophe then [c, c] else [c]
  String.ofList (apostrophe :: body ++ [apostrophe])

/-- A text on one line. -/
def inlineText (s : String) : String :=
  if isOther s || s.toList.contains '\n' then doubleQuoted s
  else if allowsPlain s then s
  else if allowsSingle s then singleQuoted s
  else doubleQuoted s

/-! ## 4. Blocks -/

/-- Blanks up to an indentation. -/
def blanks (n : Nat) : String := String.ofList (List.replicate n ' ')

/-- The indentation below `n`: the next multiple of `step`. -/
def deeper (step n : Nat) : Nat := step * ((n + step) / step)

/-- The parts of a text between newlines. -/
def textLines : List Char → List (List Char)
  | [] => [[]]
  | c :: cs =>
    if c = '\n' then [] :: textLines cs
    else
      match textLines cs with
      | line :: lines => (c :: line) :: lines
      | [] => [[c]]

/-- The head of a literal block: its mark, its indentation if it begins with a blank or an empty
line, and how the newlines at its end are kept. -/
def blockHead (step : Nat) (cs : List Char) : String :=
  let hint := if cs.head?.any (fun c => c = ' ' || isBreak c) then s!"{step}" else ""
  let final :=
    match cs.reverse with
    | '\n' :: '\n' :: _ => "+"
    | ['\n'] => "+"
    | '\n' :: _ => ""
    | _ => "-"
  "|" ++ hint ++ final

/-- A text with several lines as a literal block: what stands after the key or dash, and the
lines below it. -/
def literalBlock (step indent : Nat) (s : String) : String × List String :=
  let cs := s.toList
  let body := if cs.getLast? = some '\n' then cs.dropLast else cs
  let line := fun (l : List Char) => if l.isEmpty then "" else blanks indent ++ String.ofList l
  (blockHead step cs, (textLines body).map line)

mutual

/-- A value after a key or a dash: what stands on the same line, and the lines below it.  `below`
is the indentation of what it holds. -/
def parts (step below : Nat) : Value → String × List String
  | .null => ("null", [])
  | .bool b => (if b then "true" else "false", [])
  | .number x => (numberLayout.text x, [])
  | .text s =>
    if s.toList.contains '\n' && allowsBlock s then literalBlock step below s
    else (inlineText s, [])
  | .list [] => ("[]", [])
  | .list items => ("", itemLines step below items)
  | .map [] => ("\x7b\x7d", [])
  | .map entries => ("", entryLines step below entries)

/-- The items of a list, each after a dash. -/
def itemLines (step indent : Nat) : List Value → List String
  | [] => []
  | v :: vs =>
    let lines :=
      match parts step (indent + 2) v with
      | ("", first :: more) =>
        (blanks indent ++ "- " ++ String.ofList (first.toList.drop (indent + 2))) :: more
      | (here, below) => (blanks indent ++ "- " ++ here) :: below
    lines ++ itemLines step indent vs

/-- The entries of a map, each after its key. -/
def entryLines (step indent : Nat) : List (String × Value) → List String
  | [] => []
  | (key, v) :: rest =>
    let lines :=
      match parts step (deeper step indent) v with
      | ("", below) => (blanks indent ++ inlineText key ++ ":") :: below
      | (here, below) => (blanks indent ++ inlineText key ++ ": " ++ here) :: below
    lines ++ entryLines step indent rest

end

/-- A value as a document, indented in steps. -/
def document (step : Nat) (v : Value) : String :=
  let lines :=
    match parts step 0 v with
    | ("", below) => below
    | (here, below) => here :: below
  String.join (lines.map (· ++ "\n"))

end LineBasic.Display.Yaml
