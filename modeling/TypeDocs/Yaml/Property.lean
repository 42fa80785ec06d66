import TypeDocs.Decimal.Numeral
import TypeDocs.Text.Digit
import TypeDocs.Yaml.Cursor
import TypeDocs.Yaml.Token

/-!
# Directives, tags, anchors and aliases

The readers of the tokens that begin with one of the characters `%`, `!`, `&` and `*`.
-/

namespace TypeDocs.Yaml

/-- Reads the name of an anchor or an alias behind its first character. -/
def readAnchor (k : Cursor) : Except Malformed (String × Cursor) :=
  let (name, k) := k.next.span isNameChar
  let ends := endsWord k.head? || k.head?.any "?:,]\x7d%@\x60".toList.contains
  if name.isEmpty || !ends then .error .badAnchor else .ok (.ofList name, k)

def isTagChar (c : Char) : Bool := isNameChar c || ";/?:@&=+$.%!~*'()".toList.contains c

/-- The characters of a tag that is written out in full. -/
def isFullTagChar (c : Char) : Bool := isTagChar c || c == ',' || c == '[' || c == ']'

/-- The bytes of a tag, its escapes resolved. -/
def tagBytes : List Char → Except Malformed ByteArray
  | [] => .ok .empty
  | '%' :: a :: b :: cs => do
    match Text.natIn? 16 [a, b] with
    | some n => return ⟨#[UInt8.ofNat n]⟩ ++ (← tagBytes cs)
    | none => throw .badTag
  | '%' :: _ => .error .badTag
  | c :: cs => return c.toString.toUTF8 ++ (← tagBytes cs)

def decodeTag (cs : List Char) : Except Malformed String := do
  match String.fromUTF8? (← tagBytes cs) with
  | some s => return s
  | none => throw .badTag

/-- Reads what follows a handle, at least one character of it. -/
def readTagEnd (full : Bool) (k : Cursor) : Except Malformed (String × Cursor) := do
  let (cs, k) := k.span (if full then isFullTagChar else isTagChar)
  if cs.isEmpty then throw .badTag
  return (← decodeTag cs, k)

/-- A handle between two exclamation marks, and the cursor behind it. -/
def handle? (k : Cursor) : Option (String × Cursor) :=
  let (name, behind) := k.next.span isNameChar
  if behind.head? == some '!' then some (.ofList ('!' :: name ++ ['!']), behind.next) else none

/-- Reads a tag, which may be written in full, with a handle or without one. -/
def readTag (inFlow : Bool) (k : Cursor) : Except Malformed (Token × Cursor) := do
  let (token, k) ←
    if k.next.head? == some '<' then do
      let (tag, k) ← readTagEnd true (k.along 2)
      if k.head? != some '>' then throw .badTag
      pure (Token.tag "" tag, k.next)
    else match handle? k with
      | some (handle, k) => do
        let (suffix, k) ← readTagEnd false k
        pure (Token.tag handle suffix, k)
      | none => do
        let (cs, k) := k.next.span isTagChar
        let suffix ← decodeTag cs
        pure (if suffix.isEmpty then Token.tag "" "!" else Token.tag "!" suffix, k)
  if endsWord k.head? || (inFlow && k.head? == some ',') then return (token, k)
  throw .badTag

/-- Reads a number of at most nine digits. -/
def readVersionNumber (k : Cursor) : Except Malformed (Nat × Cursor) :=
  let (ds, k) := k.span Char.isDigit
  if ds.isEmpty || ds.length > 9 then .error .badDirective
  else .ok (Decimal.natOfDigits ds, k)

def readVersion (k : Cursor) : Except Malformed (Token × Cursor) := do
  let (major, k) ← readVersionNumber k.skipSpacing
  if k.head? != some '.' then throw .badDirective
  let (minor, k) ← readVersionNumber k.next
  return (.version major minor, k)

def readShorthand (k : Cursor) : Except Malformed (Token × Cursor) := do
  let k := k.skipSpacing
  if k.head? != some '!' then throw .badDirective
  let (handle, k) ← match handle? k with
    | some found => pure found
    | none =>
      if (k.next.span isNameChar).1.isEmpty then pure ("!", k.next) else throw .badDirective
  if !k.head?.any isSpacing then throw .badDirective
  let (lead, k) ← readTagEnd true k.skipSpacing
  if !endsWord k.head? then throw .badDirective
  return (.shorthand handle lead, k)

/-- Reads a directive and the end of its line. -/
def readDirective (k : Cursor) : Except Malformed (Token × Cursor) := do
  let (name, k) := k.next.span isNameChar
  if name.isEmpty || !endsWord k.head? then throw .badDirective
  let (token, k) ←
    if name == "YAML".toList then readVersion k
    else if name == "TAG".toList then readShorthand k
    else throw .badDirective
  return (token, ← k.skipLine .badDirective)

end TypeDocs.Yaml
