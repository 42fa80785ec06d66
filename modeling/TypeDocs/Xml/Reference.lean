import TypeDocs.Text.Digit
import TypeDocs.Xml.Malformed

/-!
# References

A reference stands between an ampersand and a semicolon, for a character by its number or for one
of the five that have names.
-/

namespace TypeDocs.Xml

def byteLength (cs : List Char) : Nat := (String.ofList cs).utf8ByteSize

def named : List (String × Char) :=
  [("lt", '<'), ("gt", '>'), ("amp", '&'), ("apos", '\''), ("quot", '"')]

/-- Reads the digits of a number below `2 ^ 32`. -/
def readDigits (base : Nat) (n : Nat) : List Char → Except BadNumber Nat
  | [] => .ok n
  | c :: cs => match Text.digit? base c with
    | none => .error .digit
    | some d =>
      if n * base + d < UInt32.size then readDigits base (n * base + d) cs else .error .tooLarge

/-- The character of a number written after a hash sign. -/
def numbered (cs : List Char) : Except BadNumber Char := do
  let (base, digits) := match cs with
    | 'x' :: cs => (16, cs)
    | cs => (10, cs)
  match digits with
  | [] => throw .empty
  | '+' :: _ | '-' :: _ => throw .sign
  | _ => pure ()
  let n ← readDigits base 0 digits
  if n == 0 then throw .zero
  else if h : n.isValidChar then return Char.ofNatAux n h
  else throw (.noCharacter n)

/-- The character that a reference stands for, given by its name and the position of that. -/
def resolve (first : Nat) (name : List Char) : Except Malformed Char :=
  match name with
  | '#' :: number => (numbered number).mapError .badNumber
  | name => match named.lookup (.ofList name) with
    | some c => .ok c
    | none => .error (.unknownEntity first (first + byteLength name) (.ofList name))

/-- Resolves the references in what follows the first `before` of `total` bytes. Inside a
reference `name` holds what was read of it, last character first. -/
def resolveFrom (total before : Nat) (name : Option (List Char)) :
    List Char → Except Malformed (List Char)
  | [] => match name with
    | none => .ok []
    | some read => .error (.openReference (before - byteLength read - 1) total)
  | c :: cs =>
    match name with
    | none =>
      if c == '&' then resolveFrom total (before + 1) (some []) cs
      else do return c :: (← resolveFrom total (before + c.utf8Size) none cs)
    | some read =>
      if c == ';' then do
        let x ← resolve (before - byteLength read) read.reverse
        return x :: (← resolveFrom total (before + 1) none cs)
      else if c == '&' then .error (.openReference (before - byteLength read - 1) total)
      else resolveFrom total (before + c.utf8Size) (some (c :: read)) cs

/-- The text with its references resolved. -/
def resolved (raw : List Char) : Except Malformed (List Char) :=
  resolveFrom (byteLength raw) 0 none raw

end TypeDocs.Xml
