import TypeDocs.Outline.Basic

/-!
# Reading records

A record starts blank, and each entry of a table, or each item of a list, fills one field. A field
filled twice is a fault at its second key, and a required field that is not there is one at the
end; keys that name no field are passed over without a look at what they hold.
-/

namespace TypeDocs

structure Field (α : Type) where
  /-- Its name, and other names that it may be written with. -/
  names : List String
  required : Bool
  fill : Outline → α → Except Fault α

structure Record (α : Type) where
  name : String
  blank : α
  fields : List (Field α)

namespace Record

variable {α : Type} (r : Record α)

def Field.title (f : Field α) : String := f.names.headD ""

/-- The index of the field that a key names. -/
def index? (d : Dialect) (key : Outline) : Except Fault (Option Nat) :=
  match key.unmarked with
  | .leaf l => match l.text, l.found with
    | some name, _ => .ok (r.fields.findIdx? (·.names.contains name))
    | none, .number (.whole n) =>
      if d.numberedFields && 0 ≤ n then .ok (some n.toNat) else l.refuse .text
    | none, _ => l.refuse .text
  | o => o.refuse .text

/-- The record when all is read, with the indices of the fields that were filled. -/
def finish (seen : List Nat) (a : α) : Except Fault α :=
  match r.fields.zipIdx.find? fun (f, i) => f.required && !seen.contains i with
  | some (f, _) => .error (.missingField (Field.title f))
  | none => .ok a

def ofEntries (d : Dialect) (stop : Option Fault) :
    List (Outline × Outline) → List Nat → α → Except Fault α
  | [], seen, a => do Outline.orStop stop () ; r.finish seen a
  | (k, v) :: es, seen, a => do
    match ← r.index? d k with
    | none => ofEntries d stop es seen a
    | some i => match r.fields[i]? with
      | none => ofEntries d stop es seen a
      | some f =>
        if seen.contains i then .error (.duplicateField (Field.title f))
        else ofEntries d stop es (i :: seen) (← f.fill v a)

/-- Fills the fields in order, the first of them the one of the given index. -/
def ofItems (after : List Outline → Option Fault → Option Fault) (stop : Option Fault) :
    Nat → List (Field α) → List Outline → α → Except Fault α
  | _, [], items, a => Outline.orStop (after items stop) a
  | i, f :: fs, item :: items, a => do ofItems after stop (i + 1) fs items (← f.fill item a)
  | i, f :: fs, [], a => do
    Outline.orStop stop ()
    if f.required then .error (.tooFewItems i r.name r.fields.length)
    else ofItems after stop (i + 1) fs [] a

/-- The record that an outline holds. -/
def read (d : Dialect) (o : Outline) : Except Fault α :=
  match o.unmarked with
  | .table entries stop => r.ofEntries d stop entries [] r.blank
  | .list items stop => match d.afterFields with
    | some after => r.ofItems after stop 0 r.fields items r.blank
    | none => o.refuse (.record r.name)
  | .leaf l => if l.blank then r.ofEntries d none [] [] r.blank else o.refuse (.record r.name)
  | o => o.refuse (.record r.name)

end Record

end TypeDocs
