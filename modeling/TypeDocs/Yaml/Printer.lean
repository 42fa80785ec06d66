import TypeDocs.Yaml.Character
import TypeDocs.Yaml.Scalar
import TypeDocs.Yaml.Style

/-!
# Writing YAML

A text is written plain where that reads back as the same text, as a literal block when it has
line breaks, and else in quotes. Lists under a key stand at the indentation of the key, and all
else is indented by two spaces a level.
-/

namespace TypeDocs.Yaml

/-- Floating numbers show the exponents 16 and up, without a sign, and -6 and below. -/
def layout : Decimal.Layout := ⟨.even, some (-5, 15), true, false⟩

/-- Whether something in the rest of a text, with the given character before it, would begin a
value or a comment. -/
def hasIndicatorAfter : Char → List Char → Bool
  | _, [] => false
  | before, c :: cs =>
    (c == ':' && endsWord cs.head?) || (c == '#' && endsWord (some before)) ||
      hasIndicatorAfter c cs

/-- Whether a plain text would be taken for markup. -/
def hasIndicator (cs : List Char) : Bool :=
  match cs with
  | [] => false
  | c :: rest =>
    ['-', '-', '-'].isPrefixOf cs || ['.', '.', '.'].isPrefixOf cs ||
      "#,[]\x7b\x7d&*!|>'\"%@`".toList.contains c ||
      ((c == '?' || c == ':' || c == '-') && endsWord rest.head?) || hasIndicatorAfter c rest

/-- Whether two neighbours somewhere in the text are a space and a line break. -/
def hasSpaceBreak : List Char → Bool
  | a :: b :: cs => (a == ' ' && isBreak b) || hasSpaceBreak (b :: cs)
  | _ => false

/-- Whether two neighbours somewhere in the text are a line break and a space. -/
def hasBreakSpace : List Char → Bool
  | a :: b :: cs => (isBreak a && b == ' ') || hasBreakSpace (b :: cs)
  | _ => false

def isSpaceOrBreak (c : Char) : Bool := c == ' ' || isBreak c

/-- Whether every character can be written as it is. -/
def isClean (cs : List Char) : Bool := cs.all isPrintable && !hasSpaceBreak cs

def allowsPlain (cs : List Char) : Bool :=
  isClean cs && !cs.any isBreak && !hasIndicator cs && !cs.head?.any (· == ' ') &&
    !cs.getLast?.any (· == ' ')

def allowsSingle (cs : List Char) : Bool := isClean cs && !hasBreakSpace cs

def allowsLiteral (cs : List Char) : Bool := isClean cs && !cs.getLast?.any (· == ' ')

/-- Whether a plain text would be taken for something else than a text. -/
def readsOtherwise (s : String) : Bool := meaning s != .text || isZeroLed s.toList

def style (s : String) : Style :=
  let cs := s.toList
  if cs.contains '\n' then if allowsLiteral cs then .literal else .double
  else if !readsOtherwise s && allowsPlain cs then .plain
  else if allowsSingle cs then .single
  else .double

def spaces (n : Nat) : List Char := List.replicate n ' '

/-- The characters with the indentation put in front of each that follows a line break. `atStart`
says whether one has just been written. -/
def indented (n : Nat) (atStart : Bool) : List Char → List Char
  | [] => []
  | c :: cs =>
    if isBreak c then c :: indented n true cs
    else (if atStart then spaces n else []) ++ c :: indented n false cs

def singleQuoted (n : Nat) (cs : List Char) : List Char :=
  let doubled := cs.flatMap fun c => if c == '\'' then ['\'', '\''] else [c]
  '\'' :: indented n false doubled ++ (if cs.getLast?.any isBreak then spaces n else []) ++ ['\'']

def hexDigit (n : Nat) : Char := (Nat.digitChar n).toUpper

/-- The last digits of a number in base 16. -/
def hexDigits : Nat → Nat → List Char
  | 0, _ => []
  | width + 1, n => hexDigits width (n / 16) ++ [hexDigit (n % 16)]

def doubleQuotedChar (c : Char) : List Char :=
  if isPrintable c && !isBreak c && c != '"' && c != '\\' then [c]
  else match letter? c with
    | some letter => ['\\', letter]
    | none =>
      let n := c.toNat
      if n ≤ 0xff then '\\' :: 'x' :: hexDigits 2 n
      else if n ≤ 0xffff then '\\' :: 'u' :: hexDigits 4 n
      else '\\' :: 'U' :: hexDigits 8 n

def doubleQuoted (cs : List Char) : List Char := '"' :: cs.flatMap doubleQuotedChar ++ ['"']

/-- What follows the bar of a literal: the indentation where the text begins with white space, and
whether line breaks at its end are dropped or kept. -/
def literalHints (cs : List Char) : List Char :=
  (if cs.head?.any isSpaceOrBreak then ['2'] else []) ++
    (match cs.reverse with
    | [] => ['-']
    | c :: before =>
      if !isBreak c then ['-']
      else match before with
        | [] => ['+']
        | b :: _ => if isBreak b then ['+'] else [])

def literal (n : Nat) (cs : List Char) : List Char :=
  '|' :: literalHints cs ++ '\n' :: indented n true cs

/-- A text inside something of the given indentation. -/
def scalarText (n : Nat) (s : String) : List Char :=
  match style s with
  | .plain => s.toList
  | .single => singleQuoted n s.toList
  | .double => doubleQuoted s.toList
  | .literal | .folded => literal n s.toList

/-- Ends the line of a text, unless the text has done so. -/
def lineEnd (s : String) : List Char :=
  if style s == .literal && s.toList.getLast?.any isBreak then [] else ['\n']

/-- Whether a key is written on one line with its value. -/
def isShortKey (key : String) : Bool := !key.toList.any isBreak && key.utf8ByteSize ≤ 128

/-- A key with the mark of its value. -/
def keyText (n : Nat) (key : String) : List Char :=
  if isShortKey key then scalarText (n + 2) key ++ [':']
  else '?' :: ' ' :: scalarText (n + 2) key ++ lineEnd key ++ spaces n ++ [':']

/-- What stands between a mark and the first line of a list or table of the given indentation:
a space when it begins on the line of the mark. -/
def lead (inline : Bool) (n : Nat) : List Char := if inline then [' '] else '\n' :: spaces n

mutual

/-- A value behind a mark. Lists and tables begin on the line of the mark of an item, and of the
mark of a value whose key is long. -/
def valueAt (inline : Bool) (n : Nat) : Json → List Char
  | .null => " null\n".toList
  | .flag b => if b then " true\n".toList else " false\n".toList
  | .number x => ' ' :: (x.textIn layout).toList ++ ['\n']
  | .text s => ' ' :: scalarText (n + 2) s ++ lineEnd s
  | .array [] => " []\n".toList
  | .array (x :: xs) =>
    let m := if inline then n + 2 else n
    lead inline m ++ '-' :: valueAt true m x ++ listAt m xs
  | .object [] => " \x7b\x7d\n".toList
  | .object ((k, v) :: es) =>
    lead inline (n + 2) ++ keyText (n + 2) k ++ valueAt (!isShortKey k) (n + 2) v ++
      tableAt (n + 2) es

/-- The lines of a list of the given indentation. -/
def listAt (n : Nat) : List Json → List Char
  | [] => []
  | x :: xs => spaces n ++ '-' :: valueAt true n x ++ listAt n xs

/-- The lines of a table of the given indentation. -/
def tableAt (n : Nat) : List (String × Json) → List Char
  | [] => []
  | (k, v) :: es => spaces n ++ keyText n k ++ valueAt (!isShortKey k) n v ++ tableAt n es

end

/-- The document of a value. -/
def render (j : Json) : String :=
  .ofList (match j with
    | .array (x :: xs) => listAt 0 (x :: xs)
    | .object (e :: es) => tableAt 0 (e :: es)
    | .text s => scalarText 2 s ++ lineEnd s
    | j => (valueAt true 0 j).tail)

end TypeDocs.Yaml
