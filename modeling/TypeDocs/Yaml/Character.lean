import TypeDocs.Text.Ranges

/-!
# The characters of YAML
-/

namespace TypeDocs.Yaml

/-- The characters that may stand in a text at all. -/
def allowed : Text.CodeRanges :=
  [(0x09, 0x0a), (0x0d, 0x0d), (0x20, 0x7e), (0x85, 0x85), (0xa0, 0xd7ff), (0xe000, 0xfffd),
    (0x10000, 0x10ffff)]

def isBreak (c : Char) : Bool :=
  c == '\n' || c == '\r' || c == '\u0085' || c == '\u2028' || c == '\u2029'

def isSpacing (c : Char) : Bool := c == ' ' || c == '\t'

/-- Whether what follows, if anything, ends a word. -/
def endsWord (c : Option Char) : Bool := c.all fun c => isSpacing c || c == '\x00' || isBreak c

/-- The characters that are written as they are. -/
def isPrintable (c : Char) : Bool :=
  let n := c.toNat
  n == 0xa || (0x20 ≤ n && n ≤ 0x7e) ||
    (0xa0 ≤ n && n != 0xfeff && n != 0xfffe && n != 0xffff)

def isNameChar (c : Char) : Bool := c.isAlphanum || c == '_' || c == '-'

/-- The characters that have a letter behind a backslash, with that letter. -/
def letters : List (Char × Char) :=
  [('\x00', '0'), ('\x07', 'a'), ('\x08', 'b'), ('\t', 't'), ('\n', 'n'), ('\x0b', 'v'),
    ('\x0c', 'f'), ('\r', 'r'), ('\x1b', 'e'), ('"', '"'), ('\\', '\\'), ('\u0085', 'N'),
    ('\u00a0', '_'), ('\u2028', 'L'), ('\u2029', 'P')]

def letter? (c : Char) : Option Char := letters.lookup c

/-- What a letter behind a backslash stands for. Some characters stand for themselves there. -/
def lettered? (letter : Char) : Option Char :=
  if [' ', '/', '\t'].contains letter then some letter
  else (letters.find? (·.2 == letter)).map (·.1)

end TypeDocs.Yaml
