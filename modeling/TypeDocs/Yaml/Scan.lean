import TypeDocs.Yaml.Block
import TypeDocs.Yaml.Flow
import TypeDocs.Yaml.Property

/-!
# The tokens of a text

A token that may turn out to be a key is remembered until a colon follows it on the same line, at
most 1024 characters on: then the token for the key is put in front of it, and if a table begins
there, so is the one for the table. Inside brackets indentation tells nothing.
-/

namespace TypeDocs.Yaml

/-- A token that may be a key. -/
structure PendingKey where
  /-- Nothing but a key can stand there. -/
  required : Bool
  /-- The number of tokens in front of it. -/
  place : Nat
  line : Nat
  column : Nat
  deriving DecidableEq, Repr

structure Scanner where
  cursor : Cursor
  /-- The tokens so far, the last one first. -/
  tokens : List Token
  count : Nat
  /-- For every open bracket, and the text around them all, what may be a key. -/
  keys : List (Option PendingKey)
  keyAllowed : Bool
  /-- The columns of the open lists and tables of blocks. -/
  indents : List Nat
  deriving Repr

namespace Scanner

def start (cs : List Char) : Scanner := ⟨.start cs, [], 0, [none], true, []⟩

variable (s : Scanner)

def inFlow : Bool := s.keys.length > 1

def push (t : Token) : Scanner := { s with tokens := t :: s.tokens, count := s.count + 1 }

/-- The tokens with one more, in front of which the given number of them stand. -/
def insert (place : Nat) (t : Token) : Scanner :=
  { s with tokens := s.tokens.insertIdx (s.count - place) t, count := s.count + 1 }

def moveTo (k : Cursor) : Scanner := { s with cursor := k }

def allowKey (b : Bool) : Scanner := { s with keyAllowed := b }

/-- Adds the token of a character. -/
def take (t : Token) : Scanner := (s.push t).moveTo s.cursor.next

/-- Forgets what may be a key, unless it has to be one. -/
def dropKey : Except Malformed Scanner :=
  match s.keys with
  | some k :: ks => if k.required then .error .keyExpected else .ok { s with keys := none :: ks }
  | _ => .ok s

/-- Remembers that the next token may be a key. -/
def saveKey : Except Malformed Scanner := do
  if !s.keyAllowed then return s
  let required := !s.inFlow && s.indents.head? == some s.cursor.column
  let s ← s.dropKey
  return { s with
    keys := some ⟨required, s.count, s.cursor.line, s.cursor.column⟩ :: s.keys.drop 1 }

/-- Whether a key could no longer end at the cursor. -/
def PendingKey.isStale (k : PendingKey) (at_ : Cursor) : Bool :=
  k.line < at_.line || k.column + 1024 < at_.column

/-- Forgets all keys that can no longer end. -/
def dropStale : Except Malformed Scanner := do
  let keys ← s.keys.mapM fun key => match key with
    | some k =>
      if !PendingKey.isStale k s.cursor then .ok key
      else if k.required then .error .keyExpected
      else .ok none
    | none => .ok none
  return { s with keys }

/-- Opens a list or table of a block at a column that is further than the open ones. -/
def indentTo (column : Nat) (open_ : Scanner → Scanner) : Scanner :=
  if s.inFlow || s.indents.head?.any (column ≤ ·) then s
  else open_ { s with indents := column :: s.indents }

/-- Closes the lists and tables of blocks whose column passes. -/
def closeWhile (pass : Nat → Bool) : Scanner :=
  if s.inFlow then s
  else
    let closed := s.indents.takeWhile pass
    closed.foldl (fun s _ => s.push .blockEnd) { s with indents := s.indents.dropWhile pass }

/-- Passes over spacing, comments and line ends. A tab is no spacing where a key may begin. -/
def toToken (inFlow : Bool) (keyAllowed comment : Bool) (line column : Nat) :
    List Char → Bool × Cursor
  | [] => (keyAllowed, ⟨line, column, []⟩)
  | c :: cs =>
    if isBreak c then toToken inFlow (keyAllowed || !inFlow) false (line + 1) 0 cs
    else if comment || c == ' ' || (c == '\t' && (inFlow || !keyAllowed)) ||
        (c == '\ufeff' && line == 0 && column == 0) then
      toToken inFlow keyAllowed comment line (column + 1) cs
    else if c == '#' then toToken inFlow keyAllowed true line (column + 1) cs
    else (keyAllowed, ⟨line, column, c :: cs⟩)

def skipToToken : Scanner :=
  let k := s.cursor
  let (keyAllowed, cursor) := toToken s.inFlow s.keyAllowed false k.line k.column k.rest
  { s with keyAllowed, cursor }

/-- What ends all blocks: the end of the text, a directive, or a marker of a document. -/
def endBlocks : Except Malformed Scanner := do
  return (← (s.closeWhile fun _ => true).dropKey).allowKey false

def fetchDirective : Except Malformed Scanner := do
  let s ← s.endBlocks
  let (t, k) ← readDirective s.cursor
  return (s.push t).moveTo k

def fetchMark (t : Token) : Except Malformed Scanner := do
  let s ← s.endBlocks
  return (s.push t).moveTo (s.cursor.along 3)

def fetchOpening (t : Token) : Except Malformed Scanner := do
  let s ← s.saveKey
  return ({ s with keys := none :: s.keys }.allowKey true).take t

def fetchClosing (t : Token) : Except Malformed Scanner := do
  let s ← s.dropKey
  let keys := if s.inFlow then s.keys.drop 1 else s.keys
  return ({ s with keys }.allowKey false).take t

def fetchComma : Except Malformed Scanner := do
  return ((← s.dropKey).allowKey true).take .comma

/-- Opens a list or table of a block here, where one may begin. -/
def openHere (t : Token) (fault : Malformed) : Except Malformed Scanner :=
  if s.inFlow then .ok s
  else if s.keyAllowed then .ok (s.indentTo s.cursor.column (·.push t))
  else .error fault

def fetchDash : Except Malformed Scanner := do
  let s ← s.openHere .blockList .badIndent
  return ((← s.dropKey).allowKey true).take .dash

def fetchKey : Except Malformed Scanner := do
  let s ← s.openHere .blockTable .badIndent
  return ((← s.dropKey).allowKey !s.inFlow).take .key

def fetchValue : Except Malformed Scanner := do
  match s.keys with
  | some k :: ks =>
    let s := { s with keys := none :: ks }.insert k.place .key
    let s := s.indentTo k.column (·.insert k.place .blockTable)
    return (s.allowKey false).take .value
  | _ =>
    let s ← s.openHere .blockTable .valueExpected
    return (s.allowKey !s.inFlow).take .value

/-- A token with which a key may begin. -/
def fetchWith (read : Cursor → Except Malformed (Token × Cursor)) : Except Malformed Scanner := do
  let s ← s.saveKey
  let (t, k) ← read s.cursor
  return ((s.allowKey false).push t).moveTo k

def fetchBlock (style : Style) : Except Malformed Scanner := do
  let s ← s.dropKey
  let (text, k) ← readBlock style s.indents.head? s.cursor
  return ((s.allowKey true).push (.scalar text style)).moveTo k

def fetchPlain : Except Malformed Scanner := do
  let s ← s.saveKey
  let k := s.cursor
  let least := s.indents.head?.elim 0 (· + 1)
  let (text, lineEnds, k) ← readPlain s.inFlow least .none [] k.line k.column k.rest
  return ((s.allowKey lineEnds).push (.scalar text .plain)).moveTo k

def isIndicator (c : Char) : Bool := "-?:,[]\x7b\x7d#&*!|>'\"%@\x60".toList.contains c

/-- Whether a plain scalar begins with a character before the next one. -/
def beginsPlain (c : Char) (after : Option Char) : Bool :=
  !isIndicator c && !isSpacing c || c == '-' && !after.any isSpacing ||
    !s.inFlow && (c == '?' || c == ':') && !endsWord after

/-- Adds the token that begins with a character at the cursor. -/
def fetch (c : Char) (after : Option Char) : Except Malformed Scanner :=
  if s.cursor.column == 0 && c == '%' then s.fetchDirective
  else if s.cursor.marks '-' then s.fetchMark .documentStart
  else if s.cursor.marks '.' then s.fetchMark .documentEnd
  else if c == '[' then s.fetchOpening .flowList
  else if c == '\x7b' then s.fetchOpening .flowTable
  else if c == ']' then s.fetchClosing .flowListEnd
  else if c == '\x7d' then s.fetchClosing .flowTableEnd
  else if c == ',' then s.fetchComma
  else if c == '-' && endsWord after then s.fetchDash
  else if c == '?' && (s.inFlow || endsWord after) then s.fetchKey
  else if c == ':' && (s.inFlow || endsWord after) then s.fetchValue
  else if c == '*' then s.fetchWith fun k => do
    let (name, k) ← readAnchor k
    return (.alias name, k)
  else if c == '&' then s.fetchWith fun k => do
    let (name, k) ← readAnchor k
    return (.anchor name, k)
  else if c == '!' then s.fetchWith (readTag s.inFlow)
  else if c == '|' && !s.inFlow then s.fetchBlock .literal
  else if c == '>' && !s.inFlow then s.fetchBlock .folded
  else if c == '\'' || c == '"' then s.fetchWith fun k => do
    let (text, k) ← readQuoted k
    return (.scalar text (if c == '"' then .double else .single), k)
  else if s.beginsPlain c after then s.fetchPlain
  else .error .badToken

/-- Adds all tokens that are left. Each takes a character at least, so the fuel need not exceed
their number. -/
def run : Nat → Scanner → Except Malformed Scanner
  | 0, _ => .error .unexpected
  | fuel + 1, s => do
    let s ← s.skipToToken.dropStale
    let s := s.closeWhile (s.cursor.column < ·)
    match s.cursor.rest with
    | [] => s.endBlocks
    | c :: cs => run fuel (← s.fetch c cs.head?)

end Scanner

/-- The tokens of a text. -/
def tokens (text : String) : Except Malformed (List Token) := do
  let cs := text.toList
  if !cs.all allowed.has then throw .badCharacter
  let cs := unifyBreaks cs
  return (← Scanner.run (cs.length + 1) (.start cs)).tokens.reverse

end TypeDocs.Yaml
