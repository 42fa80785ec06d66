/-!
# Digits

The digits of a base up to 36 are the Arabic ones and then the letters, of either case.
-/

namespace TypeDocs.Text

def digit? (base : Nat) (c : Char) : Option Nat :=
  let n :=
    if c.isDigit then some (c.toNat - 0x30)
    else if c.isLower then some (c.toNat - 0x61 + 10)
    else if c.isUpper then some (c.toNat - 0x41 + 10)
    else none
  n.filter (· < base)

/-- The number that at least one digit spells. -/
def natIn? (base : Nat) (cs : List Char) : Option Nat :=
  if cs.isEmpty then none
  else cs.foldlM (fun n c => (digit? base c).map (n * base + ·)) 0

end TypeDocs.Text
