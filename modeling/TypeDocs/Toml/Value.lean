import TypeDocs.Decimal.Numeral
import TypeDocs.Toml.Item
import TypeDocs.Toml.Moment
import TypeDocs.Toml.Text

/-!
# Reading the values of TOML

Each reader gives what it reads and the characters after it. Lists and tables in braces nest 79
deep, and a dotted key has at most so many names.
-/

namespace TypeDocs.Toml

def skipSpace (cs : List Char) : List Char := cs.dropWhile isSpace

/-- Digits with an underscore at most between any two of them. -/
def spaced (isDigit : Char → Bool) : List Char → Bool
  | [c] => isDigit c
  | c :: '_' :: cs => isDigit c && spaced isDigit cs
  | c :: cs => isDigit c && spaced isDigit cs
  | [] => false

def withoutUnderscores (cs : List Char) : List Char := cs.filter (· != '_')

/-- Whether digits are none, or are spelled with a zero in front that counts for nothing. -/
def isPadded : List Char → Bool
  | '0' :: _ :: _ => true
  | _ => false

/-- A whole number, of at most 64 bits, in a base that is said in front. -/
def basedNumber (base : Nat) (cs : List Char) : Except Malformed Number :=
  if !spaced (fun c => (Text.digit? base c).isSome) cs then .error .badNumber
  else match Text.natIn? base (withoutUnderscores cs) with
    | some n => if n < 1 <<< 63 then .ok (.whole n) else .error .badNumber
    | none => .error .badNumber

def wholeNumber (negative : Bool) (digits : List Char) : Except Malformed Number :=
  if isPadded digits || !spaced Char.isDigit digits then .error .badNumber
  else
    let n := Decimal.natOfDigits (withoutUnderscores digits)
    if negative then if n ≤ 1 <<< 63 then .ok (.whole (-n)) else .error .badNumber
    else if n < 1 <<< 63 then .ok (.whole n) else .error .badNumber

/-- A number with a point, an exponent or both. None is too large but a positive one. -/
def floatNumber (negative : Bool) (cs : List Char) : Except Malformed Number := do
  let isMantissaEnd (c : Char) : Bool := c == 'e' || c == 'E'
  let mantissa := cs.takeWhile fun c => !isMantissaEnd c
  let whole := mantissa.takeWhile (· != '.')
  if isPadded whole || !spaced Char.isDigit whole then throw .badNumber
  match mantissa.drop whole.length with
  | [] => pure ()
  | _ :: fraction => if !spaced Char.isDigit fraction then throw .badNumber
  match cs.drop mantissa.length with
  | [] => pure ()
  | _ :: exponent =>
    if !spaced Char.isDigit (Decimal.signed exponent).2 then throw .badNumber
  match Decimal.Numeral.parse? (withoutUnderscores cs) with
  | none => throw .badNumber
  | some n =>
    let x := { n with negative }.toBinary Decimal.double
    if x == .infinite false then throw .badNumber
    return .float x

/-- The number that a word spells. -/
def number (word : List Char) : Except Malformed Number :=
  match word with
  | '0' :: 'x' :: cs => basedNumber 16 cs
  | '0' :: 'o' :: cs => basedNumber 8 cs
  | '0' :: 'b' :: cs => basedNumber 2 cs
  | word =>
    let (negative, cs) := Decimal.signed word
    if cs == "inf".toList then .ok (.float (.infinite negative))
    else if cs == "nan".toList then .ok (.float .notANumber)
    else if cs.any fun c => c == '.' || c == 'e' || c == 'E' then floatNumber negative cs
    else wholeNumber negative cs

def isWordChar (c : Char) : Bool :=
  c.isAlphanum || c == '_' || c == '+' || c == '-' || c == '.'

/-- Reads a value that is one word. -/
def readWord (cs : List Char) : Except Malformed (Item × List Char) :=
  match afterMoment? cs with
  | some rest => .ok (.moment, rest)
  | none => do
    let word := cs.takeWhile isWordChar
    let item ←
      if word == "true".toList then pure (Item.flag true)
      else if word == "false".toList then pure (.flag false)
      else if word.isEmpty then throw .badValue
      else do pure (.number (← number word))
    return (item, cs.drop word.length)

def isKeyChar (c : Char) : Bool := c.isAlphanum || c == '_' || c == '-'

/-- Reads one name of a key. -/
def readName (cs : List Char) : Except Malformed (String × List Char) :=
  match cs with
  | '"' :: cs => readBasic [] cs
  | '\'' :: cs => readLiteral [] cs
  | cs =>
    let name := cs.takeWhile isKeyChar
    if name.isEmpty then .error .badKey else .ok (.ofList name, cs.drop name.length)

/-- How many brackets or names of a key may not be nested. -/
def depthLimit : Nat := 80

/-- Reads the names of a dotted key. -/
def readNames : Nat → List Char → Except Malformed (List String × List Char)
  | 0, _ => .error .tooDeep
  | fuel + 1, cs => do
    let (name, cs) ← readName (skipSpace cs)
    match skipSpace cs with
    | '.' :: cs =>
      let (names, cs) ← readNames fuel cs
      return (name :: names, cs)
    | cs => return ([name], cs)

/-- Reads a key: its names but the last, that, and the characters after it. -/
def readKey (cs : List Char) : Except Malformed (List String × String × List Char) := do
  let (names, cs) ← readNames (depthLimit - 1) cs
  return (names.dropLast, names.getLast?.getD "", cs)

/-- Passes over a comment, if one is here. -/
def skipComment (cs : List Char) : List Char :=
  match cs with
  | '#' :: cs => cs.dropWhile isLineChar
  | cs => cs

/-- Passes over space, comments and line ends. A comment has to end with its line. -/
def skipLines : Nat → List Char → Except Malformed (List Char)
  | 0, cs => .ok cs
  | fuel + 1, cs =>
    let cs := skipSpace cs
    let behind := skipComment cs
    match afterBreak? behind with
    | some cs => skipLines fuel cs
    | none => if cs.head? == some '#' then .error .lineEndExpected else .ok cs

mutual

/-- Reads a value inside the given number of brackets. The fuel bounds the number of steps. -/
def readValue : Nat → Nat → List Char → Except Malformed (Item × List Char)
  | 0, _, _ => .error .tooDeep
  | fuel + 1, depth, cs => match cs with
    | [] => .error .badValue
    | '[' :: cs => do
      if depth + 1 ≥ depthLimit then throw .tooDeep
      let (items, cs) ← readItems fuel (depth + 1) cs
      return (.list items, cs)
    | '\x7b' :: cs => do
      if depth + 1 ≥ depthLimit then throw .tooDeep
      match skipSpace cs with
      | '\x7d' :: cs => return (.table .braces [], cs)
      | cs =>
        let (entries, cs) ← readEntries fuel (depth + 1) [] cs
        return (.table .braces entries, cs)
    | c :: cs =>
      if c == '"' || c == '\'' then do
        let (s, cs) ← readText (c :: cs)
        return (.text s, cs)
      else readWord (c :: cs)

/-- Reads the items of a list up to its bracket. -/
def readItems : Nat → Nat → List Char → Except Malformed (List Item × List Char)
  | 0, _, _ => .error .tooDeep
  | fuel + 1, depth, cs => do
    match ← skipLines cs.length cs with
    | ']' :: cs => return ([], cs)
    | cs =>
      let (item, cs) ← readValue fuel depth cs
      match ← skipLines cs.length cs with
      | ',' :: cs =>
        let (items, cs) ← readItems fuel depth cs
        return (item :: items, cs)
      | ']' :: cs => return ([item], cs)
      | _ => throw .badValue

/-- Reads the entries of a table up to its brace, and adds them to those read before. -/
def readEntries : Nat → Nat → Entries → List Char → Except Malformed (Entries × List Char)
  | 0, _, _, _ => .error .tooDeep
  | fuel + 1, depth, entries, cs => do
    let (path, name, cs) ← readKey cs
    match cs with
    | '=' :: cs =>
      let (item, cs) ← readValue fuel depth (skipSpace cs)
      let entries ← entries.insert name item path
      match skipSpace cs with
      | ',' :: cs => readEntries fuel depth entries cs
      | '\x7d' :: cs => return (entries, cs)
      | _ => throw .badValue
    | _ => throw .badKey

end

/-- The characters behind the end of a line on which nothing but a comment is left. -/
def endLine (cs : List Char) : Except Malformed (List Char) :=
  match skipComment (skipSpace cs) with
  | [] => .ok []
  | cs => match afterBreak? cs with
    | some cs => .ok cs
    | none => .error .lineEndExpected

/-- Reads the lines of a text. -/
def readLines : Nat → Tables → List Char → Except Malformed Entries
  | 0, _, _ => .error .tooDeep
  | fuel + 1, t, cs => match skipSpace cs with
    | [] => t.close
    | '[' :: '[' :: cs => do
      let (path, name, cs) ← readKey cs
      match cs with
      | ']' :: ']' :: cs => do
        let cs ← endLine cs
        readLines fuel (← t.openMember (path ++ [name])) cs
      | _ => throw .badKey
    | '[' :: cs => do
      let (path, name, cs) ← readKey cs
      match cs with
      | ']' :: cs => do
        let cs ← endLine cs
        readLines fuel (← t.openTable (path ++ [name])) cs
      | _ => throw .badKey
    | c :: cs => do
      if c == '#' || (afterBreak? (c :: cs)).isSome then readLines fuel t (← endLine (c :: cs))
      else
        let (path, name, cs) ← readKey (c :: cs)
        match cs with
        | '=' :: cs =>
          let (item, cs) ← readValue (cs.length + 1) 0 (skipSpace cs)
          let cs ← endLine cs
          readLines fuel (← t.add path name item) cs
        | _ => throw .badKey

/-- The entries of a text. -/
def entries (s : String) : Except Malformed Entries :=
  let cs := match s.toList with
    | '\ufeff' :: cs => cs
    | cs => cs
  readLines (cs.length + 1) .start cs

end TypeDocs.Toml
