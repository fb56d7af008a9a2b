/-
# Typing

What arrives at the console is a stream of characters.  A carriage return or a newline ends a
line.  An interrupt drops the line typed so far, or ends the session if there is nothing on it;
an end-of-transmission ends the session on an empty line; the suspend character is ignored.  A
last line counts even if nothing ends it.
-/
import LineBasic.Console

namespace LineBasic.Console

/-- The character that interrupts (control-C). -/
def interrupt : Char := Char.ofNat 0x03

/-- The character that ends a transmission (control-D). -/
def endOfTransmission : Char := Char.ofNat 0x04

/-- The character that suspends (control-Z), which never reaches the line. -/
def suspend : Char := Char.ofNat 0x1A

/-- The character is kept when it is typed. -/
def isKept (c : Char) : Bool := c ≠ suspend

/-- What has been typed: lines, and whether the session was ended by a character. -/
structure Typed where
  lines : List String
  ended : Bool
  /-- The line not yet ended, its last character first. -/
  pending : List Char

/-- Types characters after a line begun, which is held in reverse. -/
def typing (pending : List Char) : List Char → Typed
  | [] => ⟨[], false, pending⟩
  | c :: cs =>
    if !isKept c then typing pending cs
    else if c = '\n' || c = '\r' then
      let t := typing [] cs
      { t with lines := String.ofList pending.reverse :: t.lines }
    else if c = interrupt then (if pending.isEmpty then ⟨[], true, []⟩ else typing [] cs)
    else if c = endOfTransmission then
      if pending.isEmpty then ⟨[], true, []⟩ else typing pending cs
    else typing (c :: pending) cs

/-- The lines of an input that has come to its end. -/
def Typed.all (t : Typed) : List String :=
  t.lines ++ if t.ended || t.pending.isEmpty then [] else [String.ofList t.pending.reverse]

/-- The replies to lines, up to the one that ends the session.  Lines are trimmed. -/
def answerAll (c : Console) (read : FileReader) : List String → List Reply
  | [] => []
  | line :: lines =>
    let r := c.answer read (Text.trim line)
    if r.done then [r] else r :: answerAll r.console read lines

end LineBasic.Console
