/-
# Files

A snapshot of a directory: the files in it and below it, by path.  A path is looked up part by
part from that directory.  Every part but the last has to be a directory, which is anything that
some file lies below; `.` stays and `..` goes up, and above the snapshot there are directories
without files known.
-/
import LineBasic.Error

namespace LineBasic

/-- The files below a directory, by their paths from it. -/
structure Files where
  contents : List (String × String)

namespace Files

/-- The parts of a path between slashes. -/
def splitPath (path : String) : List String := (path.splitOn "/").filter (· ≠ "")

/-- A place in the snapshot: how far above it, and the directories below it. -/
structure Place where
  above : Nat
  below : List String

/-- What stands at a list of parts. -/
inductive Entry where
  | file (content : String)
  | directory
  | nothing

/-- What stands at a place. -/
def entry (fs : Files) (p : Place) : Entry :=
  if 0 < p.above then (if p.below.isEmpty then .directory else .nothing)
  else if p.below.isEmpty then .directory
  else
    match fs.contents.find? fun (path, _) => splitPath path = p.below with
    | some (_, content) => .file content
    | none =>
      if fs.contents.any fun (path, _) => p.below.isPrefixOf (splitPath path) then .directory
      else .nothing

/-- The place that one more part leads to, from a directory. -/
def Place.enter (p : Place) (part : String) : Place :=
  if part = "." then p
  else if part = ".." then
    if p.below.isEmpty then { p with above := p.above + 1 }
    else { p with below := p.below.dropLast }
  else { p with below := p.below ++ [part] }

/-- Follows the parts of a path from a place. -/
def follow (fs : Files) (p : Place) : List String → Except FileProblem Place
  | [] => .ok p
  | part :: rest =>
    if 255 < part.utf8ByteSize then .error .nameTooLong
    else
      match fs.entry p with
      | .directory => follow fs (p.enter part) rest
      | .file _ => .error .notDirectory
      | .nothing => .error .missing

/-- The content of the file at a path. -/
def read (fs : Files) (path : String) : Except FileProblem String :=
  if path.toList.contains (Char.ofNat 0) then .error .invalidName
  else if path = "" then .error .missing
  else
    let start : Place := if path.startsWith "/" then ⟨1, []⟩ else ⟨0, []⟩
    match fs.follow start (splitPath path) with
    | .error problem => .error problem
    | .ok p =>
      match fs.entry p with
      | .file content => if path.endsWith "/" then .error .notDirectory else .ok content
      | .directory => .error .directory
      | .nothing => .error .missing

end Files

end LineBasic
