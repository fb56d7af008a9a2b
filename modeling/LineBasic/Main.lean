/-
# The program

The outer layer: it reads files, the environment and the standard input, hands them to the
command line and the console, and writes what they answer.  Nothing is decided here.
-/
import LineBasic.CommandLine.Invocation
import LineBasic.Text.Utf8

namespace LineBasic.Main

open CommandLine

/-- The text that bytes stand for. -/
def decode (bytes : ByteArray) : String := String.ofList (Text.Utf8.decode bytes.toList)

/-- What a failure of the system means for a file.  A file that cannot be opened is named in the
failure; one that was opened and cannot be read is not, and is a directory. -/
def problemOf : IO.Error → FileProblem
  | .permissionDenied .. => .denied
  | .inappropriateType none .. => .directory
  | .inappropriateType .. => .notDirectory
  | .invalidArgument _ 22 _ => .invalidName
  | .invalidArgument .. => .nameTooLong
  | _ => .missing

/-- Reads a file. -/
def readFile (name : String) : IO (Except FileProblem String) := do
  try
    return .ok (decode (← IO.FS.readBinFile name))
  catch e => return .error (problemOf e)

/-- Writes texts to a stream at once. -/
def write (stream : IO.FS.Stream) (texts : List String) : IO Unit := do
  for text in texts do
    stream.putStr text
  stream.flush

/-- Writes what a line was answered with. -/
def writeReply (r : Reply) : IO Unit := do
  write (← IO.getStdout) r.output
  write (← IO.getStderr) r.errors

/-- The configuration in the home directory. -/
def configuration : IO Configuration := do
  match ← IO.getEnv "HOME" with
  | none | some "" => return {}
  | some home =>
    return .ofFirst (← configurationPaths.mapM fun path => readFile (home ++ "/" ++ path))

/-- Everything that is left on a stream. -/
partial def readAll (stream : IO.FS.Stream) (before : ByteArray) : IO ByteArray := do
  let chunk ← stream.read 65536
  if chunk.isEmpty then return before else readAll stream (before ++ chunk)

/-- Answers lines up to the one that ends the session; none if it goes on. -/
def answerLines (c : Console) : List String → IO (Option Console)
  | [] => return some c
  | line :: lines => do
    let line := Text.trim line
    let file ← match Console.fileToLoad? line with
      | some name => readFile name
      | none => pure (.error .missing)
    let r := c.answer (fun _ => file) line
    writeReply r
    if r.done then return none else answerLines r.console lines

/-- Goes on with a session while there is input; `bytes` and `pending` have arrived and belong to
a line not yet ended. -/
partial def session (stream : IO.FS.Stream) (c : Console) (bytes : ByteArray)
    (pending : List Char) : IO Unit := do
  let chunk ← stream.read 65536
  let all := bytes ++ chunk
  let complete := chunk.isEmpty || all.toList.getLast? = some 10
  let typed := Console.typing pending (if complete then (decode all).toList else [])
  let lines := if chunk.isEmpty then typed.all else typed.lines
  match ← answerLines c lines with
  | none => return
  | some c =>
    if typed.ended || chunk.isEmpty then return
    session stream c (if complete then .empty else all) typed.pending

/-- Carries out an invocation whose program text has been read. -/
def carryOut (inv : Invocation) (config : Configuration) (source : String) : IO UInt32 := do
  if inv.isSession then
    let opened := openSession (Settings.of inv.given config) (Text.normalized source)
    writeReply opened
    session (← IO.getStdin) opened.console .empty []
    return 0
  else
    let o := inv.carryOut config (fun _ => .error .missing) source ""
    write (← IO.getStdout) o.output
    write (← IO.getStderr) o.errors
    return o.code.toUInt32

/-- Writes why an invocation failed. -/
def refuse (o : Outcome) : IO UInt32 := do
  write (← IO.getStderr) o.errors
  return o.code.toUInt32

/-- Carries out a command line. -/
def run (args : List String) : IO UInt32 := do
  match Invocation.read args with
  | .error e => refuse ⟨2, [], [complaint e.message]⟩
  | .ok inv =>
    let config ← configuration
    match inv.file with
    | none => carryOut inv config ""
    | some file =>
      if file = standardInput then
        carryOut inv config (decode (← readAll (← IO.getStdin) .empty))
      else
        match ← readFile file with
        | .ok source => carryOut inv config source
        | .error problem => refuse (outcome [] [] (some (.file file problem)))

end LineBasic.Main

/-- The program. -/
def main (args : List String) : IO UInt32 := LineBasic.Main.run args
