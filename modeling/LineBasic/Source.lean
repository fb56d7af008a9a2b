/-
# Source lines

Tokens become the nodes of lines.  A token is classified by its characters alone, but for the
first of a line, which is a line number if it consists of digits.  The tokens between two
newline tokens are one line; what follows the last newline is a line if it is not empty.  Each
line is folded, and a numbered line that then begins with an identifier gets the `LET` it left
out.

Reading a source never fails: what does not fold stays as it is.
-/
import LineBasic.Node.Fold
import LineBasic.Text.Digit
import LineBasic.Text.Letter
import LineBasic.Token

namespace LineBasic.Source

/-! ## 1. From tokens to leaves -/

/-- The words that name statements, in capitals. -/
def keywords : List String := ["PRINT", "LET"]

/-- The token begins and ends with a double quote, which may be the same one. -/
def isStringLiteral (token : String) : Bool :=
  token.toList.head? = some '"' && token.toList.getLast? = some '"'

/-- The token consists of decimal digits of any script. -/
def isAllDigits (token : String) : Bool :=
  !token.toList.isEmpty && token.toList.all Text.isDigit

/-- The kind of a token; `first` says that it is the first of its line. -/
def kindOf (first : Bool) (token : String) : Kind :=
  if isStringLiteral token then .string
  else if first && isAllDigits token then .lineNumber
  else if token.toList.any Text.isDigit then
    if token.toList.contains '.' then .float else .number
  else if token.toList.any Text.isLetter then
    if keywords.contains token then .statementName else .identifier
  else .symbol

/-- The leaf of a token. -/
def classify (first : Bool) (token : String) : Node := .leaf (kindOf first token) token

/-- The leaves of a line. -/
def leaves : List String → List Node
  | [] => []
  | t :: ts => classify true t :: ts.map (classify false)

/-! ## 2. Lines -/

/-- A line of a program. -/
structure Line where
  nodes : List Node
  deriving Repr, Inhabited

/-- A line as a tree. -/
def Line.node (l : Line) : Node := .line l.nodes

/-- The source text of a line. -/
def Line.text (l : Line) : Except Fault String := l.node.text

/-- The tokens of each line: one list for each newline token, and one for what follows the last
of them unless it is empty. -/
def segments : List String → List (List String)
  | [] => []
  | t :: ts =>
    if t = Token.newline then [] :: segments ts
    else
      match segments ts with
      | [] => [[t]]
      | line :: lines => (t :: line) :: lines

/-- The word that a numbered assignment may leave out. -/
def letWord : Node := .leaf .statementName "LET"

/-- The line begins with a line number and an identifier. -/
def lacksLet : List Node → Bool
  | number :: word :: _ => number.kind? = some .lineNumber && word.kind? = some .identifier
  | _ => false

/-- A line with the `LET` it left out. -/
def withLet : List Node → List Node
  | number :: rest =>
    if lacksLet (number :: rest) then number :: letWord :: rest else number :: rest
  | [] => []

/-- What was read, and what is reported of it. -/
structure Reading (α : Type) where
  value : α
  notices : List Notice

/-- The line of its tokens. -/
def readLine (tokens : List String) : Reading Line :=
  let folded := Fold.foldAll (leaves tokens)
  let inserted :=
    match folded.nodes with
    | number :: _ =>
      if lacksLet folded.nodes then
        [⟨.grammar, .debug, "inserting implicit LET in line " ++ number.value⟩]
      else []
    | [] => []
  ⟨⟨withLet folded.nodes⟩, folded.notices ++ inserted⟩

/-! ## 3. Programs -/

/-- The lines of a token list. -/
def readTokens (tokens : List String) : Reading (List Line) :=
  let read := (segments tokens).map readLine
  ⟨read.map (·.value),
    read.flatMap (·.notices)
      ++ [⟨.grammar, .debug, s!"parsed program of {read.length} lines"⟩]⟩

/-- The lines of a source text. -/
def read (source : String) : Reading (List Line) :=
  let scanned := Token.read source.toList none
  let parsed := readTokens (scanned.lexemes.map (·.text))
  ⟨parsed.value, scanned.notices ++ parsed.notices⟩

/-- The lines of a source text, without notices. -/
def lines (source : String) : List Line := (read source).value

/-- Lines as the tree of a program. -/
def program (lines : List Line) : Node := .mk .program "" (lines.map Line.node)

/-! ## 4. Expressions -/

/-- An attempt to read an expression: the expression, or the line that did not become one. -/
structure Attempt where
  node : Node
  /-- The node is the expression. -/
  complete : Bool

/-- Reads a text that should be one expression, with no line number and no newline. -/
def readExpression (source : String) : Reading Attempt :=
  let scanned := Token.read source.toList none
  let tokens := scanned.lexemes.map (·.text)
  let nodes := (tokens.takeWhile (· ≠ Token.newline)).map (classify false)
  if tokens.contains Token.newline then ⟨⟨.line nodes, false⟩, scanned.notices⟩
  else
    let folded := Fold.foldAll nodes
    let attempt : Attempt :=
      match folded.nodes with
      | [node] => ⟨node, true⟩
      | nodes => ⟨.line nodes, false⟩
    ⟨attempt, scanned.notices ++ folded.notices⟩

end LineBasic.Source
