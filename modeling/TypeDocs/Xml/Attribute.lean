import TypeDocs.Xml.Markup
import TypeDocs.Xml.Reference

/-!
# The attributes of a tag

The attributes are read in order, and no further than to the one that is looked for.
-/

namespace TypeDocs.Xml

def dropSpace (cs : List Char) : List Char := cs.dropWhile isSpace

def endsKey (c : Char) : Bool := c == '=' || isSpace c

/-- The key that an attribute begins with, and what follows it. The first character belongs to the
key whatever it is. -/
def splitKey : List Char → List Char × List Char
  | [] => ([], [])
  | c :: cs => (c :: cs.takeWhile fun c => !endsKey c, cs.dropWhile fun c => !endsKey c)

/-- The quoted value behind an equals sign in a tag of `total` bytes, and what follows it. -/
def quotedValue (total : Nat) (cs : List Char) : Except Malformed (List Char × List Char) :=
  match dropSpace cs with
  | [] => .error (.valueExpected total)
  | q :: rest =>
    if q == '"' || q == '\'' then
      match rest.dropWhile (· != q) with
      | [] => .error (.quoteOpen total q)
      | _ :: after => .ok (rest.takeWhile (· != q), after)
    else .error (.quoteExpected (total - byteLength (q :: rest)))

/-- One attribute of a tag of `total` bytes, and what follows it. -/
def readAttribute (total : Nat) (cs : List Char) :
    Except Malformed ((List Char × List Char) × List Char) :=
  let (key, behind) := splitKey cs
  match dropSpace behind with
  | '=' :: rest => do
    let (value, after) ← quotedValue total rest
    return ((key, value), after)
  | rest => .error (.equalsExpected (total - byteLength rest))

/-- The value of an attribute in what is left of a tag, references not resolved. The fuel bounds
the number of attributes. -/
def findFrom (total : Nat) (key : List Char) : Nat → List Char →
    Except Malformed (Option (List Char))
  | 0, _ => .ok none
  | fuel + 1, cs => match dropSpace cs with
    | [] => .ok none
    | cs => do
      let ((k, value), rest) ← readAttribute total cs
      if k == key then return some value else findFrom total key fuel rest

/-- The value of an attribute of a tag. -/
def attribute? (tag : List Char) (key : String) : Except Malformed (Option String) := do
  let rest := tag.drop (tagName tag).length
  match ← findFrom (byteLength tag) key.toList (tag.length + 1) rest with
  | none => return none
  | some raw => return some (.ofList (← resolved raw))

end TypeDocs.Xml
