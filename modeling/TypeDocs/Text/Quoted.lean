import TypeDocs.Text.PrintableTable

/-!
# Quoted texts

A text between double quotes in which a reader sees every character: line breaks, marks that would
join the quote, and what does not print are escaped.
-/

namespace TypeDocs.Text

def hexDigits (n : Nat) : List Char := Nat.toDigits 16 n

/-- The form of a character inside quotes. -/
def quotedChar (c : Char) : List Char :=
  if c == '\x00' then ['\\', '0']
  else if c == '\t' then ['\\', 't']
  else if c == '\r' then ['\\', 'r']
  else if c == '\n' then ['\\', 'n']
  else if c == '"' then ['\\', '"']
  else if c == '\\' then ['\\', '\\']
  else if graphemeExtendRanges.has c || unprintableRanges.has c then
    ['\\', 'u', '\x7b'] ++ hexDigits c.toNat ++ ['\x7d']
  else [c]

def quoted (s : String) : String :=
  .ofList ('"' :: s.toList.flatMap quotedChar ++ ['"'])

/-- The quoted texts between brackets. -/
def quotedList (ss : List String) : String := "[" ++ ", ".intercalate (ss.map quoted) ++ "]"

end TypeDocs.Text
