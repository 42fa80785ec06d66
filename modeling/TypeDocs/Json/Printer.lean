import TypeDocs.Json.Basic

/-!
# Writing JSON

`compact` writes a value without blanks, `pretty` on lines indented by two spaces a level. A text
is written with the escapes that JSON requires and no others.
-/

namespace TypeDocs.Json

def escaped (c : Char) : List Char :=
  if c == '"' then ['\\', '"']
  else if c == '\\' then ['\\', '\\']
  else if c == '\x08' then ['\\', 'b']
  else if c == '\x0c' then ['\\', 'f']
  else if c == '\n' then ['\\', 'n']
  else if c == '\r' then ['\\', 'r']
  else if c == '\t' then ['\\', 't']
  else if c.toNat < 0x20 then
    ['\\', 'u', '0', '0', Nat.digitChar (c.toNat / 16), Nat.digitChar (c.toNat % 16)]
  else [c]

/-- A text between quotes. -/
def literal (s : String) : String := .ofList ('"' :: s.toList.flatMap escaped ++ ['"'])

mutual

def compact : Json → String
  | .null => "null"
  | .flag b => if b then "true" else "false"
  | .number n => n.toText
  | .text s => literal s
  | .array items => "[" ++ compactItems items ++ "]"
  | .object entries => "\x7b" ++ compactEntries entries ++ "\x7d"

def compactItems : List Json → String
  | [] => ""
  | [x] => compact x
  | x :: xs => compact x ++ "," ++ compactItems xs

def compactEntries : List (String × Json) → String
  | [] => ""
  | [(k, v)] => literal k ++ ":" ++ compact v
  | (k, v) :: es => literal k ++ ":" ++ compact v ++ "," ++ compactEntries es

end

/-- The line break before something at the given level. -/
def lineBreak (level : Nat) : String := .ofList ('\n' :: List.replicate (2 * level) ' ')

mutual

/-- The value as it stands inside brackets of the given level. -/
def prettyAt (level : Nat) : Json → String
  | .null => "null"
  | .flag b => if b then "true" else "false"
  | .number n => n.toText
  | .text s => literal s
  | .array [] => "[]"
  | .array (x :: xs) => "[" ++ prettyItems (level + 1) (x :: xs) ++ lineBreak level ++ "]"
  | .object [] => "\x7b\x7d"
  | .object (e :: es) =>
    "\x7b" ++ prettyEntries (level + 1) (e :: es) ++ lineBreak level ++ "\x7d"

def prettyItems (level : Nat) : List Json → String
  | [] => ""
  | [x] => lineBreak level ++ prettyAt level x
  | x :: xs => lineBreak level ++ prettyAt level x ++ "," ++ prettyItems level xs

def prettyEntries (level : Nat) : List (String × Json) → String
  | [] => ""
  | [(k, v)] => lineBreak level ++ literal k ++ ": " ++ prettyAt level v
  | (k, v) :: es =>
    lineBreak level ++ literal k ++ ": " ++ prettyAt level v ++ "," ++ prettyEntries level es

end

def pretty (j : Json) : String := prettyAt 0 j

end TypeDocs.Json
