/-
# Messages read as templates

A message that is handed over as a template, with nothing to fill in, is not reproduced as it
stands: a percent sign starts a directive (flags, an index in brackets, width, precision and a
verb), and a directive without an operand is replaced by a note on what is missing.  A doubled
percent sign is a percent sign.
-/

namespace LineBasic.Text.Template

/-- What remains after an operand index in brackets, if one stands first, and whether one did.
An index is closed by the next bracket; an unclosed one is only its opening bracket. -/
def dropIndex : List Char → List Char × Bool
  | '[' :: rest =>
    if rest.length ≥ 2 && rest.contains ']' then ((rest.dropWhile (· ≠ ']')).drop 1, true)
    else (rest, true)
  | cs => (cs, false)

/-- A count: digits, or a star that asks for an operand and is noted as `missing`. -/
def dropCount (missing : String) : List Char → List Char × String
  | '*' :: rest => (rest, missing)
  | cs => (cs.dropWhile Char.isDigit, "")

/-- A precision, if a point stands first: what remains, the note, and whether an index was
given. -/
def dropPrecision : List Char → List Char × String × Bool
  | '.' :: rest =>
    let (rest, indexed) := dropIndex rest
    let (rest, note) := dropCount "%!(BADPREC)" rest
    (rest, note, indexed)
  | cs => (cs, "", false)

/-- What remains after the directive whose percent sign has been read, and what it leaves in the
message. -/
def directive (cs : List Char) : List Char × String :=
  let cs := cs.dropWhile fun c => c = '#' || c = '0' || c = '+' || c = '-' || c = ' '
  let (cs, indexed) := dropIndex cs
  let (cs, note) := dropCount "%!(BADWIDTH)" cs
  let (cs, note', indexed') := dropPrecision cs
  let (cs, indexed'') := dropIndex cs
  match cs with
  | [] => ([], note ++ note' ++ "%!(NOVERB)")
  | '%' :: rest => (rest, note ++ note' ++ "%")
  | verb :: rest =>
    let what := if indexed || indexed' || indexed'' then "(BADINDEX)" else "(MISSING)"
    (rest, note ++ note' ++ "%!" ++ String.ofList [verb] ++ what)

/-- The message, read for at most `fuel` characters and directives. -/
def fillFrom : Nat → List Char → List Char
  | 0, _ => []
  | _, [] => []
  | fuel + 1, '%' :: rest =>
    let (rest, text) := directive rest
    text.toList ++ fillFrom fuel rest
  | fuel + 1, c :: rest => c :: fillFrom fuel rest

/-- The message that a template without operands gives. -/
def fill (message : String) : String :=
  String.ofList (fillFrom message.length message.toList)

end LineBasic.Text.Template
