import TypeDocs.Command.Failure
import TypeDocs.TypeDescription

/-!
# Selecting types

Types are selected by their names or full names, in the order in which they are asked for. The
first type with a name counts.
-/

namespace TypeDocs.Command

def isNamed (name : String) (t : TypeDescription) : Bool := t.name == name || t.fullName == name

def unknownType (kind name : String) : Failure :=
  .arguments ("unknown " ++ kind ++ " type '" ++ name ++ "'")

/-- The types that are asked for, or all when none is. -/
def selectTypes (kind : String) (available : List TypeDescription) (requested : List String) :
    Except Failure (List TypeDescription) :=
  if requested.isEmpty then .ok available
  else requested.mapM fun name => match available.find? (isNamed name) with
    | some t => .ok t
    | none => .error (unknownType kind name)

end TypeDocs.Command
