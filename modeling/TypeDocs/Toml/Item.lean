import TypeDocs.Json.Basic
import TypeDocs.Toml.Malformed

/-!
# The tables of TOML

A table is named by a header, by a dotted key, or on the way to one of those, or stands in braces.
How it came about decides what may still be added to it: what a header or braces made cannot be
added to by dotted keys, and nothing can be added to what stands in braces.
-/

namespace TypeDocs.Toml

inductive Origin where
  | header
  /-- On the way to a header. -/
  | above
  | dotted
  | braces
  deriving DecidableEq, Repr

inductive Item where
  | text (s : String)
  | flag (b : Bool)
  | number (n : Number)
  | moment
  | list (items : List Item)
  | table (origin : Origin) (entries : List (String × Item))
  /-- The tables of one name that headers in double brackets add. -/
  | tables (ts : List (List (String × Item)))
  deriving Repr

abbrev Entries := List (String × Item)

namespace Entries

/-- Adds an item under a dotted key, given as the names before the last one and that. -/
def insert (name : String) (item : Item) : List String → Entries → Except Malformed Entries
  | [], es =>
    if (es.lookup name).isSome then .error (.duplicateKey name) else .ok (es ++ [(name, item)])
  | p :: ps, es => match es.lookup p with
    | none => do return put es p (.table .dotted (← insert name item ps []))
    | some (.table .dotted inner) => do
      return put es p (.table .dotted (← insert name item ps inner))
    | some (.table .above inner) => do
      if ps.isEmpty then throw (.duplicateKey name)
      return put es p (.table .above (← insert name item ps inner))
    | some (.tables ts) => do
      if ps.isEmpty then throw (.duplicateKey name)
      let last ← insert name item ps (ts.getLast?.getD [])
      return put es p (.tables (ts.dropLast ++ [last]))
    | some _ => .error (.notATable p)

/-- Changes the table at a path of a header. Of several tables of one name the last is meant. -/
def change {α : Type} (f : Entries → Except Malformed (Entries × α)) :
    List String → Entries → Except Malformed (Entries × α)
  | [], es => f es
  | p :: ps, es => match es.lookup p with
    | none => do
      let (inner, a) ← change f ps []
      return (put es p (.table .above inner), a)
    | some (.table origin inner) => do
      if origin == .braces then throw (.notATable p)
      let (inner, a) ← change f ps inner
      return (put es p (.table origin inner), a)
    | some (.tables ts) => do
      let (last, a) ← change f ps (ts.getLast?.getD [])
      return (put es p (.tables (ts.dropLast ++ [last])), a)
    | some _ => .error (.notATable p)

end Entries

/-- The tables of a text so far, and the one that is being read. -/
structure Tables where
  root : Entries
  /-- Where the open table belongs, and whether it is one of several of its name. -/
  path : List String
  isMember : Bool
  current : Entries
  deriving Repr

namespace Tables

def start : Tables := ⟨[], [], false, []⟩

/-- Adds an item to the open table. -/
def add (t : Tables) (path : List String) (name : String) (item : Item) :
    Except Malformed Tables := do
  return { t with current := ← Entries.insert name item path t.current }

/-- Puts the open table where it belongs. -/
def close (t : Tables) : Except Malformed Entries :=
  match t.path.getLast? with
  | none => .ok t.current
  | some name => do
    let (root, _) ← Entries.change (fun es => do
      let item ← match t.isMember, es.lookup name with
        | false, none => pure (Item.table .header t.current)
        | true, none => pure (.tables [t.current])
        | true, some (.tables ts) => pure (.tables (ts ++ [t.current]))
        | _, some _ => throw (.duplicateKey name)
      return (put es name item, ())) t.path.dropLast t.root
    return root

/-- Opens the table of a header. One that was only named on the way to others may still be opened,
and then holds them. -/
def openTable (t : Tables) (path : List String) : Except Malformed Tables := do
  let (root, current) ← Entries.change (fun es =>
    let name := path.getLast?.getD ""
    match es.lookup name with
    | none => .ok (es, [])
    | some (.table .above inner) => .ok (es.filter (·.1 != name), inner)
    | some _ => .error (.duplicateKey name)) path.dropLast (← t.close)
  return ⟨root, path, false, current⟩

/-- Opens one more of the tables of a name. -/
def openMember (t : Tables) (path : List String) : Except Malformed Tables := do
  let (root, _) ← Entries.change (fun es =>
    let name := path.getLast?.getD ""
    match es.lookup name with
    | none => .ok (es ++ [(name, .tables [])], ())
    | some (.tables _) => .ok (es, ())
    | some _ => .error (.duplicateKey name)) path.dropLast (← t.close)
  return ⟨root, path, true, []⟩

end Tables

end TypeDocs.Toml
