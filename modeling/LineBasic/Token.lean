/-
# Tokens

Source text is cut into tokens character by character.  A scan is in one of four modes and
holds the lexeme under construction; one character ends that lexeme, joins it, or both.

* A double quote opens a string, which takes everything up to the next quote, blanks and
  newlines included.  A string that is never closed takes the rest of the text.
* Blanks separate tokens and belong to none.  A newline is a token of its own.
* A number goes on through digits, points, exponent marks, and a sign right after a mark.
* A letter always joins the lexeme at hand, so a symbol or a number directly before a letter
  becomes part of the word.  A word goes on through letters and digits and is ended by `$` or
  `%`, which belongs to it.
* Any other character is a symbol, a token of one character unless a letter follows.

Scanning never fails.  What a scan has cut off so far never changes by what follows, which is
why `Scan.run` can stop anywhere and go on (`Scan.run_append`).
-/
import LineBasic.Notice
import LineBasic.Text.Quoted

namespace LineBasic.Token

/-! ## 1. Lexemes -/

/-- What the scan believes to be in. -/
inductive Mode where
  | start
  | number
  | identifier
  | string
  deriving DecidableEq, Repr

/-- The name of a mode in notices. -/
def Mode.name : Mode → String
  | .start => "start"
  | .number => "number"
  | .identifier => "identifier"
  | .string => "string"

/-- A token with the mode in which it was cut off. -/
structure Lexeme where
  mode : Mode
  text : String
  deriving DecidableEq, Repr

/-- The token that ends a line. -/
def newline : String := "\n"

/-- A letter that may start the exponent of a number. -/
def isExponentMark (c : Char) : Bool := c = 'E' || c = 'e'

/-! ## 2. Scanning -/

/-- The state of a scan between two characters. -/
structure Scan where
  mode : Mode
  /-- The lexeme under construction, its last character first. -/
  pending : List Char
  deriving DecidableEq, Repr

namespace Scan

/-- Nothing has been read. -/
def initial : Scan := ⟨.start, []⟩

/-- The lexeme under construction, cut off here, if there is one. -/
def flush (s : Scan) : List Lexeme :=
  if s.pending.isEmpty then [] else [⟨s.mode, String.ofList s.pending.reverse⟩]

/-- The character joins the lexeme. -/
def push (s : Scan) (c : Char) : Scan := { s with pending := c :: s.pending }

/-- The last character of the lexeme is an exponent mark. -/
def endsInMark (s : Scan) : Bool :=
  match s.pending with
  | c :: _ => isExponentMark c
  | [] => false

/-- One character: the lexemes it cuts off, and the state after it. -/
def step (s : Scan) (c : Char) : List Lexeme × Scan :=
  if c = '"' then
    if s.mode = .string then ((s.push c).flush, initial) else (s.flush, ⟨.string, [c]⟩)
  else if s.mode = .string then ([], s.push c)
  else if c = ' ' then
    if s.pending.isEmpty then ([], s) else (s.flush, initial)
  else if c = '\n' then (s.flush ++ [⟨s.mode, newline⟩], initial)
  else if isExponentMark c && s.mode = .number then ([], s.push c)
  else if (c = '+' || c = '-') && s.mode = .number then
    if s.endsInMark then ([], s.push c) else (s.flush, ⟨.start, [c]⟩)
  else if (c.isAlpha || c.isDigit) && s.mode = .identifier then ([], s.push c)
  else if c.isAlpha then ([], ⟨.identifier, c :: s.pending⟩)
  else if (c = '$' || c = '%') && s.mode = .identifier then ((s.push c).flush, initial)
  else if c.isDigit || c = '.' then
    if s.mode = .number then ([], s.push c) else (s.flush, ⟨.number, [c]⟩)
  else (s.flush, ⟨.start, [c]⟩)

/-- The lexemes that a text cuts off, and the state after it. -/
def run : Scan → List Char → List Lexeme × Scan
  | s, [] => ([], s)
  | s, c :: cs =>
    let now := s.step c
    let later := now.2.run cs
    (now.1 ++ later.1, later.2)

/-- A text may be scanned in two parts. -/
theorem run_append (s : Scan) (a b : List Char) :
    s.run (a ++ b) = ((s.run a).1 ++ ((s.run a).2.run b).1, ((s.run a).2.run b).2) := by
  induction a generalizing s with
  | nil => simp [run]
  | cons c cs ih => simp [run, ih]

end Scan

/-! ## 3. The tokens of a text -/

/-- The lexemes of a text: those cut off on the way and the one its end cuts off. -/
def lexemes (cs : List Char) : List Lexeme :=
  let r := Scan.initial.run cs
  r.1 ++ r.2.flush

/-- The tokens of a source text. -/
def tokens (source : String) : List String := (lexemes source.toList).map (·.text)

/-! ## 4. Sources that may break down -/

/-- A breakdown to come: how much the source still delivers, and the error it then gives. -/
structure Breakdown where
  after : Nat
  reason : String

/-- One character has been delivered. -/
def Breakdown.advance (b : Breakdown) : Breakdown := { b with after := b.after.pred }

/-- What came of reading a text. -/
structure Reading where
  lexemes : List Lexeme
  /-- The error of the source, if it broke down before its end. -/
  failure : Option String

/-- Reads on from a source that is to break down, or never does.  A breakdown cuts off the lexeme
under construction, as the end of the text does, and its error is passed on. -/
def Scan.read : Scan → Option Breakdown → List Char → Reading
  | s, some ⟨0, reason⟩, _ => ⟨s.flush, some reason⟩
  | s, _, [] => ⟨s.flush, none⟩
  | s, breakdown, c :: cs =>
    let now := s.step c
    let later := now.2.read (breakdown.map Breakdown.advance) cs
    ⟨now.1 ++ later.lexemes, later.failure⟩

/-- Reads a source that is to break down, or never does. -/
def read (cs : List Char) (breakdown : Option Breakdown) : Reading :=
  Scan.initial.read breakdown cs

theorem Scan.read_none (s : Scan) (cs : List Char) :
    s.read none cs = ⟨(s.run cs).1 ++ (s.run cs).2.flush, none⟩ := by
  induction cs generalizing s with
  | nil => rfl
  | cons c cs ih => simp [read, run, ih]

/-- A source that never breaks down is read to the end of its text. -/
theorem read_none (cs : List Char) : read cs none = ⟨lexemes cs, none⟩ :=
  Scan.initial.read_none cs

/-! ## 5. Notices -/

/-- A lexeme has been cut off. -/
def Lexeme.notice (l : Lexeme) : Notice :=
  ⟨.grammar, .debug, "lexer accepting " ++ Text.quoted l.text ++ " in state " ++ l.mode.name⟩

/-- What is reported of a reading: every lexeme, and their number if the end was reached. -/
def Reading.notices (r : Reading) : List Notice :=
  r.lexemes.map Lexeme.notice
    ++ if r.failure.isSome then []
       else [⟨.grammar, .debug, s!"lexer produced {r.lexemes.length} tokens"⟩]

end LineBasic.Token
