/-
# Quoted texts

A text in double quotes, on one line and in printable characters only: quotes and backslashes
get a backslash, the usual controls their letter, and all other unprintable characters their
code point in hexadecimal.
-/
import LineBasic.Text.Printable

namespace LineBasic.Text

/-- A hexadecimal digit below 16. -/
def hexDigit (upper : Bool) (n : Nat) : Char :=
  if n < 10 then Char.ofNat ('0'.toNat + n)
  else Char.ofNat ((if upper then 'A' else 'a').toNat + (n - 10))

/-- The last `places` hexadecimal digits of `n`. -/
def hexDigits (upper : Bool) : Nat → Nat → List Char
  | 0, _ => []
  | places + 1, n => hexDigits upper places (n / 16) ++ [hexDigit upper (n % 16)]

/-- How one character is written between quotes. -/
def escaped (c : Char) : List Char :=
  let n := c.toNat
  if c = '"' then ['\\', '"']
  else if c = '\\' then ['\\', '\\']
  else if isPrintable c then [c]
  else if n = 0x07 then ['\\', 'a']
  else if n = 0x08 then ['\\', 'b']
  else if n = 0x0C then ['\\', 'f']
  else if n = 0x0A then ['\\', 'n']
  else if n = 0x0D then ['\\', 'r']
  else if n = 0x09 then ['\\', 't']
  else if n = 0x0B then ['\\', 'v']
  else if n < 0x20 || n = 0x7F then '\\' :: 'x' :: hexDigits false 2 n
  else if n < 0x10000 then '\\' :: 'u' :: hexDigits false 4 n
  else '\\' :: 'U' :: hexDigits false 8 n

/-- A text in double quotes. -/
def quoted (s : String) : String :=
  String.ofList ('"' :: s.toList.flatMap escaped ++ ['"'])

end LineBasic.Text
