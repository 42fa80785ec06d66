import TypeDocs.Outline.Fault

/-!
# Outlines

An outline is data as far as it can be read before anything is expected of it. A list or a table
keeps what was read of it and, as its `stop`, the fault at which its text ended early. A leaf keeps
an answer to each thing that may be expected of it, since a scalar reads differently where a text
is wanted and where a flag is. Reading an outline meets the faults in the order of the text.
-/

namespace TypeDocs

structure Leaf where
  /-- The value when nothing in particular is expected. -/
  value : Except Fault Json
  text : Option String
  flag : Option Bool
  /-- Whether it stands for no value where one is optional. -/
  absent : Except Fault Bool
  /-- Whether it stands for a list or a table with nothing in it. -/
  blank : Bool
  found : Found

inductive Outline where
  | leaf (l : Leaf)
  | list (items : List Outline) (stop : Option Fault)
  | table (entries : List (Outline × Outline)) (stop : Option Fault)
  /-- Something that is marked as one of several kinds. The mark counts where a name of a kind is
  expected, or nothing in particular. -/
  | tagged (tag : String) (content : Outline)
  | fault (f : Fault)

/-- The leaf of a scalar that is what it is, whatever is expected. -/
def Leaf.ofFound (found : Found) (value : Except Fault Json) : Leaf where
  value := value
  text := match found with | .text s => some s | _ => none
  flag := match found with | .flag b => some b | _ => none
  absent := .ok (found == .null)
  blank := false
  found := found

/-- The leaf of a scalar that cannot be read. -/
def Leaf.ofFault (f : Fault) : Leaf := ⟨.error f, none, none, .ok false, false, .null⟩

/-- The fault of a leaf that is not what is wanted. -/
def Leaf.refuse {α : Type} (l : Leaf) (wanted : Wanted) : Except Fault α :=
  match l.value with
  | .error f => .error f
  | .ok _ => .error (.mismatch l.found wanted)

/-- What the formats of data decide differently about records and names. -/
structure Dialect where
  /-- What is wrong with the rest of a list when the fields of a record have been read off its
  front; absent when no record is written as a list. -/
  afterFields : Option (List Outline → Option Fault → Option Fault)
  /-- Whether a whole number as a key means the field of that index. -/
  numberedFields : Bool
  /-- The name written where one of the known names is expected. -/
  variant : List String → Outline → Except Fault String

namespace Outline

/-- The outline without its mark. -/
def unmarked : Outline → Outline
  | .tagged _ o => o
  | o => o

def found : Outline → Found
  | .leaf l => l.found
  | .list .. => .list
  | _ => .table

/-- The fault of an outline that is not what is wanted. -/
def refuse {α : Type} (wanted : Wanted) (o : Outline) : Except Fault α :=
  match o.unmarked with
  | .fault f => .error f
  | .leaf l => l.refuse wanted
  | o => .error (.mismatch o.found wanted)

def asTextFor (wanted : Wanted) (o : Outline) : Except Fault String :=
  match o.unmarked with
  | .leaf l => match l.text with
    | some s => .ok s
    | none => l.refuse wanted
  | o => o.refuse wanted

def asText : Outline → Except Fault String := asTextFor .text

def asFlag (o : Outline) : Except Fault Bool :=
  match o.unmarked with
  | .leaf l => match l.flag with
    | some b => .ok b
    | none => l.refuse .flag
  | o => o.refuse .flag

/-- Nothing for an absent value, and else what is read from it. -/
def asOptional {α : Type} (read : Outline → Except Fault α) (o : Outline) :
    Except Fault (Option α) :=
  match o.unmarked with
  | .leaf l => do if ← l.absent then return none else return some (← read o)
  | _ => (read o).map some

/-- The result, unless the text ended early. -/
def orStop {α : Type} (stop : Option Fault) (a : α) : Except Fault α :=
  match stop with
  | some f => .error f
  | none => .ok a

def asList {α : Type} (read : Outline → Except Fault α) (o : Outline) : Except Fault (List α) :=
  match o.unmarked with
  | .list items stop => do orStop stop (← items.mapM read)
  | .leaf l => if l.blank then .ok [] else l.refuse .list
  | o => o.refuse .list

/-- The name, when it is one of the known ones. -/
def known (names : List String) (name : String) : Except Fault String :=
  if names.contains name then .ok name else .error (.unknownVariant name names)

mutual

/-- The value when nothing in particular is expected. Of the entries with one key the last counts,
in the place of the first. -/
def asJson : Outline → Except Fault Json
  | .leaf l => l.value
  | .list items stop => do orStop stop (.array (← asJsonItems items))
  | .table entries stop => do orStop stop (.object (distinct (← asJsonEntries entries)))
  | .tagged .. => .error (.yaml .unknownTag)
  | .fault f => .error f

def asJsonItems : List Outline → Except Fault (List Json)
  | [] => .ok []
  | x :: xs => do
    let j ← asJson x
    return j :: (← asJsonItems xs)

def asJsonEntries : List (Outline × Outline) → Except Fault (List (String × Json))
  | [] => .ok []
  | (k, v) :: es => do
    let name ← asText k
    let j ← asJson v
    return (name, j) :: (← asJsonEntries es)

end

mutual

/-- The outline of a value. -/
def ofJson : Json → Outline
  | .null => .leaf (.ofFound .null (.ok .null))
  | .flag b => .leaf (.ofFound (.flag b) (.ok (.flag b)))
  | .number n => .leaf (.ofFound (.number n) (.ok (.number n)))
  | .text s => .leaf (.ofFound (.text s) (.ok (.text s)))
  | .array items => .list (ofJsonItems items) none
  | .object entries => .table (ofJsonEntries entries) none

def ofJsonItems : List Json → List Outline
  | [] => []
  | x :: xs => ofJson x :: ofJsonItems xs

def ofJsonEntries : List (String × Json) → List (Outline × Outline)
  | [] => []
  | (k, v) :: es => (.leaf (.ofFound (.text k) (.ok (.text k))), ofJson v) :: ofJsonEntries es

end

mutual

/-- The outline read with nothing expected: its leaves are what they are, and no fault is left. -/
def settle : Outline → Except Fault Outline
  | .leaf l => l.value.map ofJson
  | .list items stop => do orStop stop (.list (← settleItems items) none)
  | .table entries stop => do orStop stop (.table (← settleEntries entries) none)
  | .tagged .. => .error (.yaml .unknownTag)
  | .fault f => .error f

def settleItems : List Outline → Except Fault (List Outline)
  | [] => .ok []
  | x :: xs => do
    let o ← settle x
    return o :: (← settleItems xs)

def settleEntries : List (Outline × Outline) → Except Fault (List (Outline × Outline))
  | [] => .ok []
  | (k, v) :: es => do
    let key ← settle k
    let o ← settle v
    return (key, o) :: (← settleEntries es)

end

end Outline

end TypeDocs
