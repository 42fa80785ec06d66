import TypeDocs.Json.Basic
import TypeDocs.Text.Affix
import TypeDocs.Text.Blank
import TypeDocs.Xml.Attribute

/-!
# Documentation of members

An XML text holds elements `member`, each with the name of a member and a `summary`. A summary is
kept as its words with single spaces, and of several for one member the first counts. Properties
are named `P:Type.property` and methods `M:Type.method`, with a list of parameters behind.
-/

namespace TypeDocs

/-- The summaries by the names of the members, each name once. -/
structure Documentation where
  members : List (String × String)
  deriving DecidableEq, Repr

namespace Documentation

def empty : Documentation := ⟨[]⟩

/-- What has been read: the summaries that ended, the member begun and the words of its summary. -/
structure Reading where
  members : List (String × String)
  member : Option String
  words : Option (List (List Char))
  deriving DecidableEq, Repr

def Reading.start : Reading := ⟨[], none, none⟩

/-- The name of what a reference points to: what follows its kind, after the last dot. -/
def referenceName (reference : List Char) : List Char :=
  let name := match reference.dropWhile (· != ':') with
    | _ :: rest => rest
    | [] => reference
  (name.reverse.takeWhile (· != '.')).reverse

def Reading.add (r : Reading) (cs : List Char) : Reading :=
  { r with words := r.words.map (· ++ Text.words cs) }

/-- Ends a summary. The first one of a member stays. -/
def Reading.endSummary (r : Reading) : Reading :=
  match r.member, r.words with
  | some name, some ws =>
    let members :=
      if (r.members.lookup name).isSome then r.members
      else r.members ++ [(name, .ofList ([' '].intercalate ws))]
    { r with members, words := none }
  | _, _ => { r with words := none }

def memberTag : List Char := "member".toList

def summaryTag : List Char := "summary".toList

/-- Takes in one piece of the text. -/
def Reading.step (r : Reading) : Xml.Markup → Except Xml.Malformed Reading
  | .opening tag =>
    if Xml.tagName tag == memberTag then do
      return { r with member := ← Xml.attribute? tag "name" }
    else if Xml.tagName tag == summaryTag && r.member.isSome then
      .ok { r with words := some [] }
    else .ok r
  | .empty tag =>
    if r.words.isSome then do
      match ← Xml.attribute? tag "cref" with
      | some reference => return r.add (referenceName reference.toList)
      | none => return r
    else .ok r
  | .text raw => if r.words.isSome then do return r.add (← Xml.resolved raw) else .ok r
  | .cdata content => .ok (r.add content)
  | .closing name =>
    if name == summaryTag then .ok r.endSummary
    else if name == memberTag then .ok { r with member := none, words := none }
    else .ok r
  | .ignored => .ok r

def Reading.steps (r : Reading) : List Xml.Markup → Except Xml.Malformed Reading
  | [] => .ok r
  | m :: ms => do Reading.steps (← r.step m) ms

/-- Reads an XML text. -/
def parse (xml : String) : Except Xml.Malformed Documentation :=
  let (pieces, stop) := Xml.pieces xml.toList
  match Reading.start.steps pieces, stop with
  | .error e, _ => .error e
  | .ok _, some e => .error e
  | .ok r, none => .ok ⟨r.members⟩

def propertyKey (type property : String) : String := "P:" ++ type ++ "." ++ property

def methodKey (type method : String) : String := "M:" ++ type ++ "." ++ method

variable (d : Documentation)

/-- The summary of a member, unless it is empty. -/
def summary (member : String) : Option String :=
  (d.members.lookup member).filter (fun s => !s.isEmpty)

def propertySummary (type property : String) : Option String :=
  d.summary (propertyKey type property)

/-- Of two members, the one with the lesser name. -/
def lesser (a : Option (String × String)) (b : String × String) : Option (String × String) :=
  match a with
  | some a => if b.1 < a.1 then some b else some a
  | none => some b

/-- The summary of a method, else that of the overload with the least name. -/
def methodSummary (type method : String) : Option String :=
  let key := methodKey type method
  (d.summary key).or
    (((d.members.filter fun (name, s) => Text.startsWith (key ++ "(") name && !s.isEmpty).foldl
      lesser none).map (·.2))

end Documentation

end TypeDocs
