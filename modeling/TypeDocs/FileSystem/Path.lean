import TypeDocs.Text.Affix

/-!
# Paths

A path is a text. Its names are what stands between its slashes; the names `.` and `..` mean the
directory itself and the one above it.
-/

namespace TypeDocs

structure Path where
  absolute : Bool
  names : List String
  /-- Whether a slash follows the last name. -/
  slash : Bool
  deriving DecidableEq, Repr

namespace Path

def parse (s : String) : Path where
  absolute := s.toList.head? == some '/'
  names := ((s.toList.splitOn '/').filter fun n => !n.isEmpty).map .ofList
  slash := s.toList.getLast? == some '/'

/-- A path below a directory, unless it is absolute. -/
def join (directory path : String) : String :=
  if (parse path).absolute then path
  else if directory.isEmpty || (parse directory).slash then directory ++ path
  else directory ++ "/" ++ path

/-- The last name, unless it is no proper one. -/
def fileName? (s : String) : Option String :=
  match (parse s).names.filter (· != ".") |>.getLast? with
  | some name => if name == ".." then none else some name
  | none => none

/-- What follows the last dot of the last name, when something precedes it. -/
def extension? (s : String) : Option String := do
  let cs := (← fileName? s).toList.reverse
  match cs.dropWhile (· != '.') with
  | _ :: _ :: _ => return .ofList (cs.takeWhile (· != '.')).reverse
  | _ => none

end Path

end TypeDocs
