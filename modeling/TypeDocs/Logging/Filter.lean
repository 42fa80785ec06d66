import TypeDocs.Logging.Record
import TypeDocs.Text.Alphanumeric
import TypeDocs.Text.Blank
import TypeDocs.Text.LetterCase

/-!
# Which records are logged

A filter is a list of directives. One that names no span and asks for no value of a field sets how
talkative records of its target may be, and of those that apply to a record the most specific one
counts. One that names a span, or fields, sets it for all records made inside such a span.
-/

namespace TypeDocs

/-- The most talkative level that passes, if any does. -/
abbrev LogLimit := Option LogLevel

def LogLimit.passes (limit : LogLimit) (l : LogLevel) : Bool :=
  limit.any fun most => l.rank ≤ most.rank

/-- A limit by its name or number. -/
def LogLimit.parse? (s : String) : Option LogLimit :=
  let digits := match s.toList with
    | '+' :: cs => cs
    | cs => cs
  if !digits.isEmpty && digits.all Char.isDigit then
    match digits.dropWhile (· == '0') with
    | [] => some none
    | [c] => (LogLevel.all.find? fun l => l.rank + 0x30 == c.toNat).map some
    | _ => none
  else if s.isEmpty then some (some .error)
  else if Text.sameLetters s "off" then some none
  else (LogLevel.all.find? fun l => Text.sameLetters s l.name).map some

structure LogDirective where
  limit : LogLimit := some .trace
  target : Option String := none
  span : Option String := none
  /-- The names of fields, and whether a value is asked for. -/
  fields : List (String × Bool) := []
  deriving DecidableEq, Repr

/-- Why a filter is refused. -/
inductive BadFilter where
  | directive
  | level
  deriving DecidableEq, Repr

def BadFilter.message : BadFilter → String
  | .directive => "invalid filter directive"
  | .level =>
    "error parsing level filter: expected one of \"off\", \"error\", \"warn\", \"info\", " ++
      "\"debug\", \"trace\", or a number 0-5"

namespace LogDirective

/-- What of a directive is being read, with what was read of it, last character first. -/
inductive Place where
  | start
  | name (read : List Char)
  | span (read : List Char)
  | field (read : List Char)
  | behindField
  | behindSpan
  | level (read : List Char)
  deriving DecidableEq, Repr

def textOf (read : List Char) : String := .ofList read.reverse

def beginsName (c : Char) : Bool := c == '-' || c == ':' || c == '_' || Text.isAlphanumeric c

/-- A field with what follows an equals sign. -/
def fieldOf (read : List Char) : String × Bool :=
  let cs := read.reverse
  (.ofList (cs.takeWhile (· != '=')), cs.contains '=')

/-- Reads one character. -/
def step (d : LogDirective) (p : Place) (c : Char) : Except BadFilter (LogDirective × Place) :=
  match p with
  | .start =>
    if c == '[' then .ok (d, .span [])
    else if beginsName c then .ok (d, .name [c])
    else .error .directive
  | .name read =>
    if c == '=' then .ok ({ d with target := some (textOf read) }, .level [])
    else if c == '[' then .ok ({ d with target := some (textOf read) }, .span [])
    else .ok (d, .name (c :: read))
  | .span read =>
    if c == ']' then .ok ({ d with span := some (textOf read) }, .behindSpan)
    else if c == '\x7b' then
      .ok ({ d with span := if read.isEmpty then none else some (textOf read) }, .field [])
    else .ok (d, .span (c :: read))
  | .field read =>
    if c == '\x7d' then
      if read.isEmpty then .error .directive
      else .ok ({ d with fields := d.fields ++ [fieldOf read] }, .behindField)
    else .ok (d, .field (c :: read))
  | .behindField => if c == ']' then .ok (d, .behindSpan) else .error .directive
  | .behindSpan => if c == '=' then .ok (d, .level []) else .error .directive
  | .level read => .ok (d, .level (c :: read))

/-- What the end of its text makes of a directive. A name alone is a limit or a target. -/
def finish (d : LogDirective) : Place → Except BadFilter LogDirective
  | .name read => match LogLimit.parse? (textOf read) with
    | some limit => .ok { d with limit, target := none }
    | none => .ok { d with target := some (textOf read) }
  | .behindSpan => .ok d
  | .level [] => .ok d
  | .level read => match LogLimit.parse? (textOf read) with
    | some limit => .ok { d with limit }
    | none => .error .level
  | _ => .error .directive

def parse (s : String) : Except BadFilter LogDirective := do
  let (d, p) ← (Text.trim s.toList).foldlM (fun (d, p) c => step d p c) ({}, Place.start)
  finish d p

/-- Whether it asks for the value of a field. -/
def asksValue (d : LogDirective) : Bool := d.fields.any (·.2)

def isAboutSpans (d : LogDirective) : Bool := d.span.isSome || !d.fields.isEmpty

def hasFields (d : LogDirective) (fields : List String) : Bool :=
  d.fields.all fun f => fields.contains f.1

def hasTarget (d : LogDirective) (target : String) : Bool :=
  d.target.all fun t => t.toList.isPrefixOf target.toList

def appliesTo (d : LogDirective) (r : LogRecord) : Bool :=
  d.span.isNone && !d.asksValue && d.hasTarget r.target && d.hasFields ("message" :: r.fields)

def holdsIn (d : LogDirective) (s : LogSpan) : Bool :=
  d.isAboutSpans && !d.asksValue && d.hasTarget s.target && d.span.all (· == s.name) &&
    d.hasFields s.fields

/-- How specific a directive is: by its target, and then by its fields. -/
def weight (d : LogDirective) : Nat × Nat :=
  (d.target.elim 0 (·.utf8ByteSize + 1), d.fields.length)

def isLighter (d e : LogDirective) : Bool :=
  let (a, b) := d.weight
  let (x, y) := e.weight
  a < x || (a == x && b < y)

end LogDirective

structure LogFilter where
  directives : List LogDirective
  deriving DecidableEq, Repr

namespace LogFilter

/-- The filter of a text. An empty one lets errors pass. -/
def parse (s : String) : Except BadFilter LogFilter := do
  if s.isEmpty then return ⟨[{ limit := some .error }]⟩
  let parts := s.toList.splitOn ','
  return ⟨← parts.mapM fun cs => LogDirective.parse (.ofList cs)⟩

/-- The most specific of some directives, of equals the last. -/
def heaviest (ds : List LogDirective) : Option LogDirective :=
  ds.foldl (fun best d => match best with
    | none => some d
    | some b => if d.isLighter b then some b else some d) none

def passes (f : LogFilter) (spans : List LogSpan) (r : LogRecord) : Bool :=
  spans.any (fun s => f.directives.any fun d => d.holdsIn s && d.limit.passes r.level) ||
    (heaviest (f.directives.filter (·.appliesTo r))).any (·.limit.passes r.level)

end LogFilter

end TypeDocs
