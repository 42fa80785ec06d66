import TypeDocs.Json.Basic
import TypeDocs.Json.Malformed
import TypeDocs.Text.Digit

/-!
# The scalars of a JSON text

Each reader takes the characters from where its scalar begins and gives the scalar and the
characters after it.
-/

namespace TypeDocs.Json

def isSpace (c : Char) : Bool := c == ' ' || c == '\n' || c == '\t' || c == '\r'

def skipSpace (cs : List Char) : List Char := cs.dropWhile isSpace

/-- Reads the rest of a word. -/
def readWord : List Char → List Char → Except Malformed (List Char)
  | [], cs => .ok cs
  | _ :: _, [] => .error .endInValue
  | w :: ws, c :: cs => if c == w then readWord ws cs else .error .expectedWord

def isHighSurrogate (n : Nat) : Bool := 0xd800 ≤ n && n ≤ 0xdbff

def isLowSurrogate (n : Nat) : Bool := 0xdc00 ≤ n && n ≤ 0xdfff

/-- The character of a surrogate pair. -/
def paired (high low : Nat) : Char :=
  Char.ofNat (0x10000 + (high - 0xd800) * 0x400 + (low - 0xdc00))

/-- What a letter after a backslash stands for. -/
def escape? (c : Char) : Option Char :=
  if c == '"' || c == '\\' || c == '/' then some c
  else if c == 'b' then some '\x08'
  else if c == 'f' then some '\x0c'
  else if c == 'n' then some '\n'
  else if c == 'r' then some '\r'
  else if c == 't' then some '\t'
  else none

/-- The fault of an escape by number without four characters, or four bytes, to read it from. -/
def cutEscape (cs : List Char) : Malformed :=
  if (String.ofList cs).utf8ByteSize < 4 then .endInText else .badEscape

/-- Reads a text after its opening quote. `high` is the first half of a surrogate pair whose
second half has to follow, `read` the characters so far in reverse. -/
def readText (high : Option Nat) (read : List Char) :
    List Char → Except Malformed (String × List Char)
  | '\\' :: 'u' :: a :: b :: c :: d :: cs =>
    match Text.natIn? 16 [a, b, c, d], high with
    | none, _ => .error .badEscape
    | some n, some h =>
      if isLowSurrogate n then readText none (paired h n :: read) cs else .error .loneSurrogate
    | some n, none =>
      if isHighSurrogate n then readText (some n) read cs
      else if isLowSurrogate n then .error .loneSurrogate
      else readText none (Char.ofNat n :: read) cs
  | '\\' :: 'u' :: cs => .error (cutEscape cs)
  | ['\\'] => .error .endInText
  | '\\' :: c :: cs =>
    if high.isSome then .error .shortEscape
    else match escape? c with
      | some e => readText none (e :: read) cs
      | none => .error .badEscape
  | [] => .error .endInText
  | c :: cs =>
    if high.isSome then .error .shortEscape
    else if c == '"' then .ok (.ofList read.reverse, cs)
    else if c.toNat < 0x20 then .error .controlCharacter
    else readText none (c :: read) cs

/-- Passes over a text after its opening quote, whatever characters its escapes stand for. -/
def skipText : List Char → Except Malformed (List Char)
  | '\\' :: 'u' :: a :: b :: c :: d :: cs =>
    if (Text.natIn? 16 [a, b, c, d]).isSome then skipText cs else .error .badEscape
  | '\\' :: 'u' :: cs => .error (cutEscape cs)
  | ['\\'] => .error .endInText
  | '\\' :: c :: cs => if (escape? c).isSome then skipText cs else .error .badEscape
  | [] => .error .endInText
  | c :: cs =>
    if c == '"' then .ok cs
    else if c.toNat < 0x20 then .error .controlCharacter
    else skipText cs

def digitValue (c : Char) : Nat := c.toNat - 0x30

/-- The digits that keep the significand below `2 ^ 64`, and how many do not. -/
def absorb (significand : Nat) : List Char → Nat × Nat
  | [] => (significand, 0)
  | c :: cs =>
    let next := significand * 10 + digitValue c
    if next < UInt64.size then absorb next cs else (significand, cs.length + 1)

/-- Scales by a power of ten, in steps that stay within the range of a floating number. -/
def scaled (x : Decimal.Binary) (exponent : Int) : Except Malformed Decimal.Binary :=
  let power (n : Nat) := Decimal.Binary.ofNat Decimal.double (Nat.pow 10 n)
  if 0 ≤ exponent then
    if x.isZero then .ok x
    else if exponent ≤ 308 then
      let y := x.mul Decimal.double (power exponent.toNat)
      if y.isFinite then .ok y else .error .outOfRange
    else .error .outOfRange
  else if x.isZero then .ok x
  else if h : exponent < -308 then scaled (x.div Decimal.double (power 308)) (exponent + 308)
  else .ok (x.div Decimal.double (power (-exponent).toNat))
termination_by (-exponent).toNat
decreasing_by omega

def floating (negative : Bool) (significand : Nat) (exponent : Int) :
    Except Malformed Number := do
  let x ← scaled (Decimal.Binary.ofNat Decimal.double significand) exponent
  return .float (if negative then x.negate else x)

/-- The greatest exponent that is read as such. -/
def exponentLimit : Nat := (1 <<< 31) - 1

/-- Reads what follows the `e` of a number. -/
def readExponent (negative : Bool) (significand : Nat) (scale : Int) (cs : List Char) :
    Except Malformed (Number × List Char) :=
  let (down, cs) := match cs with
    | '+' :: cs => (false, cs)
    | '-' :: cs => (true, cs)
    | cs => (false, cs)
  match cs with
  | [] => .error .endInValue
  | c :: _ =>
    if !c.isDigit then .error .badNumber
    else do
      let rest := cs.dropWhile Char.isDigit
      let n := (cs.takeWhile Char.isDigit).foldl (fun n c => n * 10 + digitValue c) 0
      if n ≤ exponentLimit then
        let x ← floating negative significand (if down then scale - n else scale + n)
        return (x, rest)
      else if significand != 0 && !down then .error .outOfRange
      else return (← floating negative 0 0, rest)

/-- Reads what follows the digits of a whole number. -/
def readFraction (negative : Bool) (significand : Nat) (scale : Int) (cs : List Char) :
    Except Malformed (Number × List Char) :=
  match cs with
  | '.' :: cs =>
    let digits := cs.takeWhile Char.isDigit
    let rest := cs.dropWhile Char.isDigit
    if digits.isEmpty then .error (if cs.isEmpty then .endInValue else .badNumber)
    else
      let (significand, beyond) := absorb significand digits
      let scale := scale - (digits.length - beyond : Nat)
      match rest with
      | 'e' :: cs | 'E' :: cs => readExponent negative significand scale cs
      | _ => do return (← floating negative significand scale, rest)
  | 'e' :: cs | 'E' :: cs => readExponent negative significand scale cs
  | _ => do return (← floating negative significand scale, cs)

def startsDigit : List Char → Bool
  | c :: _ => c.isDigit
  | [] => false

/-- Whether a number goes on after its whole digits. -/
def continues : List Char → Bool
  | c :: _ => c == '.' || c == 'e' || c == 'E'
  | [] => false

/-- Reads a number after its sign. A whole number is kept as such when it fits. -/
def readNumber (negative : Bool) (cs : List Char) : Except Malformed (Number × List Char) :=
  match cs with
  | [] => .error .endInValue
  | c :: after =>
    if !c.isDigit then .error .badNumber
    else if c == '0' && startsDigit after then .error .badNumber
    else
      let rest := cs.dropWhile Char.isDigit
      let (significand, beyond) := absorb 0 (cs.takeWhile Char.isDigit)
      if beyond > 0 || continues rest then readFraction negative significand beyond rest
      else if !negative then .ok (.whole significand, rest)
      else if significand == 0 || significand > 1 <<< 63 then
        do return (← floating true significand 0, rest)
      else .ok (.whole (-significand), rest)

def skipExponent (cs : List Char) : Except Malformed (List Char) :=
  let cs := match cs with
    | '+' :: cs | '-' :: cs => cs
    | cs => cs
  if startsDigit cs then .ok (cs.dropWhile Char.isDigit) else .error .badNumber

def skipFraction (cs : List Char) : Except Malformed (List Char) :=
  match cs with
  | '.' :: cs =>
    if startsDigit cs then
      match cs.dropWhile Char.isDigit with
      | 'e' :: cs | 'E' :: cs => skipExponent cs
      | rest => .ok rest
    else .error .badNumber
  | 'e' :: cs | 'E' :: cs => skipExponent cs
  | _ => .ok cs

/-- Passes over a number after its sign, whatever its size. -/
def skipNumber (cs : List Char) : Except Malformed (List Char) :=
  match cs with
  | [] => .error .badNumber
  | c :: after =>
    if !c.isDigit then .error .badNumber
    else if c == '0' then if startsDigit after then .error .badNumber else skipFraction after
    else skipFraction (after.dropWhile Char.isDigit)

end TypeDocs.Json
