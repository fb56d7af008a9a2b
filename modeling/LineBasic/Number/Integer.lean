/-
# Integers with a base prefix

Settings that take an integer read it in the usual bases: `0x`, `0o` and `0b` before the
digits, a leading zero alone for octal, decimal otherwise, in upper or lower case.  An
underscore may separate digits, and a base prefix from them.  The value fits 64 bits with a
sign.
-/

namespace LineBasic.Number

/-- Why a text is no integer. -/
inductive IntegerError where
  | malformed
  | outOfRange
  deriving DecidableEq, Repr

/-- The value of a digit, in any base up to 36. -/
def digitValue? (c : Char) : Option Nat :=
  if c.isDigit then some (c.toNat - '0'.toNat)
  else if c.isLower then some (c.toNat - 'a'.toNat + 10)
  else if c.isUpper then some (c.toNat - 'A'.toNat + 10)
  else none

/-- The base that a text announces, and its digits. -/
def splitBase : List Char → Nat × List Char
  | ['0'] => (8, [])
  | '0' :: mark :: rest =>
    let digits := !rest.isEmpty
    if digits && mark.toLower = 'b' then (2, rest)
    else if digits && mark.toLower = 'o' then (8, rest)
    else if digits && mark.toLower = 'x' then (16, rest)
    else (8, mark :: rest)
  | cs => (10, cs)

/-- The value of digits in a base, after `n`.  Scanning stops at the first character that is no
digit and at the first value beyond 64 bits, whichever comes first. -/
def valueFrom (base n : Nat) : List Char → Except IntegerError Nat
  | [] => .ok n
  | c :: cs =>
    if c = '_' then valueFrom base n cs
    else
      match digitValue? c with
      | some d =>
        if base ≤ d then .error .malformed
        else if Nat.pow 2 64 ≤ base * n + d then .error .outOfRange
        else valueFrom base (base * n + d) cs
      | none => .error .malformed

/-- A digit as far as separation is concerned. -/
def isPlace (hex : Bool) (c : Char) : Bool :=
  c.isDigit || (hex && 'a' ≤ c.toLower && c.toLower ≤ 'f')

/-- Every underscore stands between digits, the first also after a base prefix; `afterDigit`
says what stands before. -/
def separated (hex afterDigit : Bool) : List Char → Bool
  | [] => true
  | '_' :: d :: rest => afterDigit && isPlace hex d && separated hex true rest
  | c :: rest => c ≠ '_' && separated hex (isPlace hex c) rest

/-- Underscores, if there are any, only separate digits. -/
def wellSeparated (cs : List Char) : Bool :=
  match cs with
  | '0' :: mark :: rest =>
    let m := mark.toLower
    if m = 'b' || m = 'o' || m = 'x' then separated (m = 'x') true rest
    else separated false false cs
  | _ => separated false false cs

/-- The magnitude of an integer without its sign. -/
def magnitude (cs : List Char) : Except IntegerError Nat :=
  if cs.isEmpty then .error .malformed
  else
    let (base, digits) := splitBase cs
    match valueFrom base 0 digits with
    | .error e => .error e
    | .ok n => if cs.contains '_' && !wellSeparated cs then .error .malformed else .ok n

/-- A magnitude within the limit, with a sign. -/
def signed (negative : Bool) (limit : Nat) : Except IntegerError Nat → Except IntegerError Int
  | .error e => .error e
  | .ok n =>
    if limit < n then .error .outOfRange else .ok (if negative then -(n : Int) else n)

/-- The integer that a text stands for. -/
def integer (s : String) : Except IntegerError Int :=
  match s.toList with
  | '-' :: cs => signed true (Nat.pow 2 63) (magnitude cs)
  | '+' :: cs => signed false (Nat.pow 2 63 - 1) (magnitude cs)
  | cs => signed false (Nat.pow 2 63 - 1) (magnitude cs)

end LineBasic.Number
