import TypeDocs.Yaml.Character
import TypeDocs.Yaml.Malformed

/-!
# Places in a YAML text

A text is read from a cursor: the characters that are left, and the line and column of the first of
them. All one-character spellings of a line's end are made one before a text is read, so a cursor
meets only `\n` and the two separators of Unicode as line breaks.
-/

namespace TypeDocs.Yaml

/-- The text with every end of a line that is no separator of Unicode as `\n`. -/
def unifyBreaks : List Char → List Char
  | '\r' :: '\n' :: cs => '\n' :: unifyBreaks cs
  | c :: cs => (if c == '\r' || c == '\u0085' then '\n' else c) :: unifyBreaks cs
  | [] => []

structure Cursor where
  line : Nat
  column : Nat
  rest : List Char
  deriving Repr

namespace Cursor

def start (cs : List Char) : Cursor := ⟨0, 0, cs⟩

def head? (k : Cursor) : Option Char := k.rest.head?

/-- The cursor behind its first character. -/
def next (k : Cursor) : Cursor :=
  match k.rest with
  | [] => k
  | c :: cs => if isBreak c then ⟨k.line + 1, 0, cs⟩ else ⟨k.line, k.column + 1, cs⟩

/-- The cursor some characters further on the same line. -/
def along (k : Cursor) (n : Nat) : Cursor := ⟨k.line, k.column + n, k.rest.drop n⟩

/-- The longest run of characters that pass, none of them a line break, and the cursor behind. -/
def span (k : Cursor) (pass : Char → Bool) : List Char × Cursor :=
  let run := k.rest.takeWhile pass
  (run, k.along run.length)

def skipSpacing (k : Cursor) : Cursor := (k.span isSpacing).2

/-- The cursor behind spacing, a comment and the end of the line; nothing else may be there. -/
def skipLine (k : Cursor) (fault : Malformed) : Except Malformed Cursor :=
  let k := k.skipSpacing
  let k := if k.head? == some '#' then (k.span fun c => !isBreak c).2 else k
  if k.head?.all isBreak then .ok k.next else .error fault

/-- Whether a marker of a document's begin or end stands here. -/
def marks (k : Cursor) (c : Char) : Bool :=
  k.column == 0 && k.rest.take 3 == [c, c, c] && endsWord k.rest[3]?

def atDocumentMark (k : Cursor) : Bool := k.marks '-' || k.marks '.'

end Cursor

end TypeDocs.Yaml
