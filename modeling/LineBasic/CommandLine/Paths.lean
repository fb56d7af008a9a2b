/-
# Where an application keeps its files

Configuration, cached data and logs of an application lie below the user's directories, in a
directory named for the application in lower case.  The environment may name these directories;
a relative name does not count.  Otherwise they are found below the home directory.  Without
that there is no such path.
-/
import LineBasic.Text.LowerCase

namespace LineBasic.CommandLine

/-! ## 1. Paths -/

/-- One part of a path after those before it, which are held in reverse: empty parts and `.` are
left out, and `..` takes back the part before, stays at the root, or is kept at the front of a
relative path. -/
def addPart (rooted : Bool) (before : List String) (part : String) : List String :=
  if part = "" || part = "." then before
  else if part = ".." then
    match before with
    | [] => if rooted then [] else [".."]
    | ".." :: _ => ".." :: before
    | _ :: rest => rest
  else part :: before

/-- The shortest path that leads to the same place, by its text alone. -/
def cleanPath (path : String) : String :=
  let rooted := path.startsWith "/"
  let parts := ((path.splitOn "/").foldl (addPart rooted) []).reverse
  let text := "/".intercalate parts
  if rooted then "/" ++ text else if text = "" then "." else text

/-- Parts joined to a path; empty parts at the front are left out. -/
def joinPath (parts : List String) : String :=
  match parts.dropWhile (· = "") with
  | [] => ""
  | parts => cleanPath ("/".intercalate parts)

/-! ## 2. The directories of an application -/

/-- The part of the environment that matters here; an unset variable is empty. -/
structure Environment where
  home : String
  configHome : String
  cacheHome : String

/-- The directories of an application. -/
structure AppPaths where
  config : String
  log : String
  cache : String
  /-- Why the home directory is not known, if it is not. -/
  problem : Option String

/-- A directory of the user: the one the environment names, if it is absolute, or one below the
home directory. -/
def userDirectory? (env : Environment) (named belowHome : String) : Option String :=
  if named.startsWith "/" then some named
  else if env.home = "" then none
  else some (if named = "" then env.home ++ "/" ++ belowHome else joinPath [env.home, belowHome])

/-- The directories of the application with a tag. -/
def appPaths (env : Environment) (tag : String) : AppPaths :=
  let tag := Text.lowerCase tag
  let path := fun (named belowHome : String) =>
    match userDirectory? env named belowHome with
    | some dir => joinPath [dir, tag]
    | none => ""
  let cache := path env.cacheHome ".cache"
  { config := path env.configHome ".config"
    log := if cache = "" then "" else joinPath [cache, "logs"]
    cache := cache
    problem := if env.home = "" then some "$HOME is not defined" else none }

end LineBasic.CommandLine
