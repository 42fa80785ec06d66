import TypeDocs.Text.Digit
import TypeDocs.Toml.Malformed

/-!
# The texts of TOML

A text stands between double quotes, with escapes, or between single ones, as it is; in three
quotes of either kind it may go over several lines. Each reader begins behind the opening quotes
and gives the text and the characters after the closing ones.
-/

namespace TypeDocs.Toml

def isSpace (c : Char) : Bool := c == ' ' || c == '\t'

/-- The characters of a line of a text or a comment. -/
def isLineChar (c : Char) : Bool := c == '\t' || (0x20 ≤ c.toNat && c.toNat != 0x7f)

/-- The characters after the end of a line, if one is here. -/
def afterBreak? : List Char → Option (List Char)
  | '\n' :: cs => some cs
  | '\r' :: '\n' :: cs => some cs
  | _ => none

/-- What a letter after a backslash stands for. -/
def escape? (c : Char) : Option Char :=
  [('b', '\x08'), ('t', '\t'), ('n', '\n'), ('f', '\x0c'), ('r', '\r'), ('"', '"'),
    ('\\', '\\')].lookup c

/-- The character with a number in base sixteen. -/
def numbered? (digits : List Char) : Option Char := do
  let n ← Text.natIn? 16 digits
  if h : n.isValidChar then some (Char.ofNatAux n h) else none

/-- What a text that has been read, last character first, is given as. -/
abbrev TextReading := Except Malformed (String × List Char)

def done (read cs : List Char) : TextReading := .ok (.ofList read.reverse, cs)

/-- Ends a text of several lines behind three quotes. Up to two more are part of the text. -/
def closeLong (quote : Char) (read : List Char) : List Char → TextReading
  | a :: b :: cs =>
    if a == quote && b == quote then done (quote :: quote :: read) cs
    else if a == quote then done (quote :: read) (b :: cs)
    else done read (a :: b :: cs)
  | [a] => if a == quote then done (quote :: read) [] else done read [a]
  | [] => done read []

def readLiteral (read : List Char) : List Char → TextReading
  | [] => .error .badText
  | c :: cs =>
    if c == '\'' then done read cs
    else if isLineChar c then readLiteral (c :: read) cs
    else .error .badText

def readLongLiteral (read : List Char) : List Char → TextReading
  | '\'' :: '\'' :: '\'' :: cs => closeLong '\'' read cs
  | '\r' :: '\n' :: cs => readLongLiteral ('\n' :: read) cs
  | c :: cs =>
    if c == '\n' || isLineChar c then readLongLiteral (c :: read) cs else .error .badText
  | [] => .error .badText

def readBasic (read : List Char) : List Char → TextReading
  | '\\' :: 'u' :: a :: b :: c :: d :: cs => match numbered? [a, b, c, d] with
    | some e => readBasic (e :: read) cs
    | none => .error .badText
  | '\\' :: 'U' :: a :: b :: c :: d :: e :: f :: g :: h :: cs =>
    match numbered? [a, b, c, d, e, f, g, h] with
    | some e => readBasic (e :: read) cs
    | none => .error .badText
  | '\\' :: c :: cs => match escape? c with
    | some e => readBasic (e :: read) cs
    | none => .error .badText
  | c :: cs =>
    if c == '"' then done read cs
    else if c != '\\' && isLineChar c then readBasic (c :: read) cs
    else .error .badText
  | [] => .error .badText

/-- Reads a text of several lines. After a backslash at the end of a line, `skips` says that space
and line ends do not count. -/
def readLongBasic (skips : Bool) (read : List Char) : List Char → TextReading
  | '"' :: '"' :: '"' :: cs => closeLong '"' read cs
  | '\r' :: '\n' :: cs => readLongBasic skips (if skips then read else '\n' :: read) cs
  | '\\' :: 'u' :: a :: b :: c :: d :: cs => match numbered? [a, b, c, d] with
    | some e => readLongBasic false (e :: read) cs
    | none => .error .badText
  | '\\' :: 'U' :: a :: b :: c :: d :: e :: f :: g :: h :: cs =>
    match numbered? [a, b, c, d, e, f, g, h] with
    | some e => readLongBasic false (e :: read) cs
    | none => .error .badText
  | '\\' :: c :: cs =>
    if (afterBreak? ((c :: cs).dropWhile isSpace)).isSome then readLongBasic true read (c :: cs)
    else match escape? c with
      | some e => readLongBasic false (e :: read) cs
      | none => .error .badText
  | c :: cs =>
    if skips && (isSpace c || c == '\n') then readLongBasic true read cs
    else if c == '\n' || (c != '\\' && isLineChar c) then readLongBasic false (c :: read) cs
    else .error .badText
  | [] => .error .badText

/-- The characters without a line end at their front. -/
def skipBreak (cs : List Char) : List Char := (afterBreak? cs).getD cs

/-- Reads a text from its opening quotes. -/
def readText : List Char → TextReading
  | '"' :: '"' :: '"' :: cs => readLongBasic false [] (skipBreak cs)
  | '\'' :: '\'' :: '\'' :: cs => readLongLiteral [] (skipBreak cs)
  | '"' :: cs => readBasic [] cs
  | '\'' :: cs => readLiteral [] cs
  | _ => .error .badText

end TypeDocs.Toml
