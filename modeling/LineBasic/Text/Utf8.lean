/-
# Reading bytes as characters

A byte sequence is read character by character.  A well-formed UTF-8 sequence (shortest form,
no surrogate, at most U+10FFFF) gives its character; a byte that starts none gives one
replacement character U+FFFD and is passed over alone, so reading never fails and never skips
a byte that could start a character.
-/

namespace LineBasic.Text.Utf8

/-- U+FFFD, which stands for a byte that starts no character. -/
def replacement : Char := Char.ofNat 0xFFFD

/-- A continuation byte. -/
def isTail (b : UInt8) : Bool := 0x80 ≤ b && b ≤ 0xBF

/-- Which second byte may follow the leading byte `a`: the ranges that keep the sequence in its
shortest form, off the surrogates and below U+110000. -/
def isSecond (a b : UInt8) : Bool :=
  if a = 0xE0 then 0xA0 ≤ b && b ≤ 0xBF
  else if a = 0xED then 0x80 ≤ b && b ≤ 0x9F
  else if a = 0xF0 then 0x90 ≤ b && b ≤ 0xBF
  else if a = 0xF4 then 0x80 ≤ b && b ≤ 0x8F
  else isTail b

/-- The payload of a continuation byte. -/
def tailBits (b : UInt8) : Nat := b.toNat % 0x40

/-- The sequences of two bytes; any other is a replacement. -/
def upToTwo (a b : UInt8) : Char × Nat :=
  if 0xC2 ≤ a && a ≤ 0xDF && isTail b then
    (Char.ofNat ((a.toNat % 0x20) * 0x40 + tailBits b), 1)
  else (replacement, 0)

/-- The sequences of at most three bytes. -/
def upToThree (a b c : UInt8) : Char × Nat :=
  if 0xE0 ≤ a && a ≤ 0xEF && isSecond a b && isTail c then
    (Char.ofNat (((a.toNat % 0x10) * 0x40 + tailBits b) * 0x40 + tailBits c), 2)
  else upToTwo a b

/-- The sequences of at most four bytes. -/
def upToFour (a b c d : UInt8) : Char × Nat :=
  if 0xF0 ≤ a && a ≤ 0xF4 && isSecond a b && isTail c && isTail d then
    (Char.ofNat ((((a.toNat % 0x08) * 0x40 + tailBits b) * 0x40 + tailBits c) * 0x40
      + tailBits d), 3)
  else upToThree a b c

/-- The character that starts with byte `a`, followed by `rest`, and how many bytes of `rest`
belong to it. -/
def character (a : UInt8) (rest : List UInt8) : Char × Nat :=
  if a < 0x80 then (Char.ofNat a.toNat, 0)
  else
    match rest with
    | b :: c :: d :: _ => upToFour a b c d
    | [b, c] => upToThree a b c
    | [b] => upToTwo a b
    | [] => (replacement, 0)

/-- Reads on after `skip` bytes that belong to the character before. -/
def decodeFrom : Nat → List UInt8 → List Char
  | _, [] => []
  | skip + 1, _ :: rest => decodeFrom skip rest
  | 0, a :: rest =>
    let (c, extra) := character a rest
    c :: decodeFrom extra rest

/-- The characters of a byte sequence. -/
def decode (bytes : List UInt8) : List Char := decodeFrom 0 bytes

end LineBasic.Text.Utf8
