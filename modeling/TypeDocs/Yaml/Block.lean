import TypeDocs.Yaml.Cursor
import TypeDocs.Yaml.Token

/-!
# Block scalars

A block scalar is the lines that follow its header and are indented at least as far as its first
line. Folded, the line break between two lines that begin without spacing is a space, or nothing
when empty lines follow. The header says what becomes of the line breaks at the end.
-/

namespace TypeDocs.Yaml

inductive Tail where
  | strip
  | clip
  | keep
  deriving DecidableEq, Repr

/-- What a scalar does with the line breaks at its end, and how much further it is indented than
what stands around it, if that is said. -/
structure BlockHeader where
  tail : Tail
  indent : Option Nat
  deriving DecidableEq, Repr

def tail? (c : Char) : Option Tail :=
  if c == '+' then some .keep else if c == '-' then some .strip else none

def indent? (c : Char) : Option Nat := if c.isDigit then some (c.toNat - 0x30) else none

/-- The two signs of a header stand in either order. -/
def blockSigns (cs : List Char) : BlockHeader × Nat :=
  match cs.head?.bind tail?, cs.head?.bind indent? with
  | some t, _ => match cs[1]?.bind indent? with
    | some n => (⟨t, some n⟩, 2)
    | none => (⟨t, none⟩, 1)
  | none, some n => match cs[1]?.bind tail? with
    | some t => (⟨t, some n⟩, 2)
    | none => (⟨.clip, some n⟩, 1)
  | none, none => (⟨.clip, none⟩, 0)

def readBlockHeader (k : Cursor) : Except Malformed (BlockHeader × Cursor) := do
  let (header, n) := blockSigns k.next.rest
  if header.indent == some 0 then throw .badScalar
  return (header, ← (k.next.along n).skipLine .badScalar)

/-- The furthest column of the first line that is not empty and of the lines before it. -/
def furthestIndent (furthest column : Nat) : List Char → Except Malformed Nat
  | [] => .ok (max furthest column)
  | c :: cs =>
    if c == ' ' then furthestIndent furthest (column + 1) cs
    else if c == '\t' then .error .badIndent
    else if isBreak c then furthestIndent (max furthest column) 0 cs
    else .ok (max furthest column)

/-- How far reading the lines of a block has come. -/
inductive BlockPlace where
  | inLine
  /-- Behind the break of a line, if there was one, and further breaks, last first. -/
  | betweenLines (first : Option Char) (others : List Char)
  deriving DecidableEq, Repr

/-- The breaks between two lines, last first. -/
def joint (fold : Bool) (first : Option Char) (others : List Char) : List Char :=
  if fold && first == some '\n' then (if others.isEmpty then [' '] else others)
  else others ++ first.toList

/-- The text of a block that ends. -/
def blockText (tail : Tail) (place : BlockPlace) (read : List Char) : String :=
  let breaks := match place, tail with
    | .inLine, _ | .betweenLines .., .strip => []
    | .betweenLines first _, .clip => first.toList
    | .betweenLines first others, .keep => others ++ first.toList
  .ofList (breaks ++ read).reverse

/-- How the lines of a block are read. -/
structure BlockManner where
  folds : Bool
  tail : Tail
  indent : Nat
  deriving DecidableEq, Repr

/-- Reads the lines of a block. `spaced` says that the last line began with spacing. -/
def readBlockLines (m : BlockManner) (place : BlockPlace) (spaced : Bool) (read : List Char)
    (line column : Nat) : List Char → Except Malformed (String × Cursor)
  | [] => .ok (blockText m.tail place read, ⟨line, column, []⟩)
  | c :: cs => match place with
    | .inLine =>
      if isBreak c then readBlockLines m (.betweenLines (some c) []) spaced read (line + 1) 0 cs
      else readBlockLines m .inLine spaced (c :: read) line (column + 1) cs
    | .betweenLines first others =>
      if column < m.indent && c == ' ' then
        readBlockLines m (.betweenLines first others) spaced read line (column + 1) cs
      else if column < m.indent && c == '\t' then .error .badIndent
      else if isBreak c then
        readBlockLines m (.betweenLines first (c :: others)) spaced read (line + 1) 0 cs
      else if column < m.indent then
        .ok (blockText m.tail place read, ⟨line, column, c :: cs⟩)
      else
        let before := joint (m.folds && !spaced && !isSpacing c) first others
        readBlockLines m .inLine (isSpacing c) (c :: (before ++ read)) line (column + 1) cs

/-- Reads a block scalar from its first character. `outer` is the indentation around it. -/
def readBlock (style : Style) (outer : Option Nat) (k : Cursor) :
    Except Malformed (String × Cursor) := do
  let (header, k) ← readBlockHeader k
  let least := outer.elim 0 (· + 1)
  let indent ← match header.indent with
    | some n => pure (outer.getD 0 + n)
    | none => do pure (max (← furthestIndent 0 k.column k.rest) (max least 1))
  readBlockLines ⟨style == .folded, header.tail, indent⟩ (.betweenLines none []) false []
    k.line k.column k.rest

end TypeDocs.Yaml
