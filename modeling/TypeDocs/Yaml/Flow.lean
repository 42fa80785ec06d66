import TypeDocs.Text.Digit
import TypeDocs.Yaml.Cursor

/-!
# Plain and quoted scalars

A scalar is runs of characters with gaps between them. A gap without a line break is kept as it is.
Of the line breaks of a gap the first is a space when no other follows, and nothing when others do;
spacing around them does not count.
-/

namespace TypeDocs.Yaml

/-- What was read since the last run, last character first. -/
inductive Gap where
  | spacing (read : List Char)
  /-- The first line break, which may be escaped, and the others. -/
  | breaks (first : Option Char) (others : List Char)
  deriving DecidableEq, Repr

namespace Gap

def none : Gap := .spacing []

def hasBreak : Gap → Bool
  | .spacing _ => false
  | .breaks .. => true

def push : Gap → Char → Gap
  | .spacing read, c => if isBreak c then .breaks (some c) [] else .spacing (c :: read)
  | .breaks first others, c => .breaks first (if isBreak c then c :: others else others)

/-- The characters that a gap stands for, last first. -/
def folded : Gap → List Char
  | .spacing read => read
  | .breaks (some '\n') [] => [' ']
  | .breaks (some '\n') others => others
  | .breaks first others => others ++ first.toList

end Gap

/-- Reads a scalar between single quotes after the first of them. -/
def readSingleQuoted (gap : Gap) (read : List Char) (line column : Nat) :
    List Char → Except Malformed (String × Cursor)
  | [] => .error .badScalar
  | '\'' :: '\'' :: cs =>
    readSingleQuoted .none ('\'' :: (gap.folded ++ read)) line (column + 2) cs
  | c :: cs =>
    if Cursor.atDocumentMark ⟨line, column, c :: cs⟩ then .error .badScalar
    else if c == '\'' then
      .ok (.ofList (gap.folded ++ read).reverse, ⟨line, column + 1, cs⟩)
    else if isBreak c then readSingleQuoted (gap.push c) read (line + 1) 0 cs
    else if isSpacing c then readSingleQuoted (gap.push c) read line (column + 1) cs
    else readSingleQuoted .none (c :: (gap.folded ++ read)) line (column + 1) cs

/-- The character with a number in base sixteen. -/
def numbered? (digits : List Char) : Option Char := do
  let n ← Text.natIn? 16 digits
  if h : n.isValidChar then some (Char.ofNatAux n h) else Option.none

/-- Reads a scalar between double quotes after the first of them. -/
def readDoubleQuoted (gap : Gap) (read : List Char) (line column : Nat) :
    List Char → Except Malformed (String × Cursor)
  | [] | ['\\'] => .error .badScalar
  | '\\' :: 'x' :: a :: b :: cs =>
    match numbered? [a, b] with
    | some e => readDoubleQuoted .none (e :: (gap.folded ++ read)) line (column + 4) cs
    | none => .error .badScalar
  | '\\' :: 'u' :: a :: b :: c :: d :: cs =>
    match numbered? [a, b, c, d] with
    | some e => readDoubleQuoted .none (e :: (gap.folded ++ read)) line (column + 6) cs
    | none => .error .badScalar
  | '\\' :: 'U' :: a :: b :: c :: d :: e :: f :: g :: h :: cs =>
    match numbered? [a, b, c, d, e, f, g, h] with
    | some e => readDoubleQuoted .none (e :: (gap.folded ++ read)) line (column + 10) cs
    | none => .error .badScalar
  | '\\' :: c :: cs =>
    if isBreak c then
      readDoubleQuoted (.breaks none []) (gap.folded ++ read) (line + 1) 0 cs
    else match lettered? c with
      | some e => readDoubleQuoted .none (e :: (gap.folded ++ read)) line (column + 2) cs
      | none => .error .badScalar
  | c :: cs =>
    if Cursor.atDocumentMark ⟨line, column, c :: cs⟩ then .error .badScalar
    else if c == '"' then
      .ok (.ofList (gap.folded ++ read).reverse, ⟨line, column + 1, cs⟩)
    else if isBreak c then readDoubleQuoted (gap.push c) read (line + 1) 0 cs
    else if isSpacing c then readDoubleQuoted (gap.push c) read line (column + 1) cs
    else readDoubleQuoted .none (c :: (gap.folded ++ read)) line (column + 1) cs

/-- Reads a quoted scalar from its opening quote. -/
def readQuoted (k : Cursor) : Except Malformed (String × Cursor) :=
  match k.rest with
  | '\'' :: cs => readSingleQuoted .none [] k.line (k.column + 1) cs
  | _ :: cs => readDoubleQuoted .none [] k.line (k.column + 1) cs
  | [] => .error .badScalar

def isFlowMark (c : Char) : Bool := c == ',' || c == '[' || c == ']' || c == '\x7b' || c == '\x7d'

/-- A plain scalar, whether line breaks follow it, and the cursor behind them. -/
abbrev PlainReading := String × Bool × Cursor

/-- Whether a plain scalar ends at a character before the next one. -/
def endsPlain (inFlow : Bool) (c : Char) (after : Option Char) : Bool :=
  (c == ':' && endsWord after) || (inFlow && isFlowMark c)

/-- Reads a plain scalar, whose further lines are indented at least so far unless it stands inside
brackets. -/
def readPlain (inFlow : Bool) (indent : Nat) (gap : Gap) (read : List Char) (line column : Nat) :
    List Char → Except Malformed PlainReading
  | [] => .ok (.ofList read.reverse, gap.hasBreak, ⟨line, column, []⟩)
  | c :: cs =>
    let here : Cursor := ⟨line, column, c :: cs⟩
    let done : Except Malformed PlainReading := .ok (.ofList read.reverse, gap.hasBreak, here)
    if isBreak c then readPlain inFlow indent (gap.push c) read (line + 1) 0 cs
    else if isSpacing c then
      if c == '\t' && gap.hasBreak && column < indent then .error .badIndent
      else readPlain inFlow indent (gap.push c) read line (column + 1) cs
    else if gap != .none && (c == '#' || (!inFlow && column < indent)) then done
    else if here.atDocumentMark then done
    else if inFlow && c == ':' && cs.head?.any (fun c => isFlowMark c || c == '?') then
      .error .badScalar
    else if endsPlain inFlow c cs.head? then done
    else readPlain inFlow indent .none (c :: (gap.folded ++ read)) line (column + 1) cs

end TypeDocs.Yaml
