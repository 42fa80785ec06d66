import TypeDocs.Decimal.Binary

/-!
# Decimal numerals

A numeral has digits, of which some may follow a point, and perhaps an exponent.
-/

namespace TypeDocs.Decimal

/-- The number `digits * 10 ^ exponent` or its opposite. -/
structure Numeral where
  negative : Bool
  digits : Nat
  exponent : Int
  deriving DecidableEq, Repr

def natOfDigits (cs : List Char) : Nat := cs.foldl (fun n c => n * 10 + (c.toNat - 0x30)) 0

/-- Takes a sign off the front. -/
def signed : List Char → Bool × List Char
  | '-' :: cs => (true, cs)
  | '+' :: cs => (false, cs)
  | cs => (false, cs)

/-- The exponent that follows an `e`. -/
def exponent? (cs : List Char) : Option Int :=
  let (negative, ds) := signed cs
  if ds.isEmpty || !ds.all Char.isDigit then none
  else some (if negative then -natOfDigits ds else natOfDigits ds)

def Numeral.parse? (cs : List Char) : Option Numeral := do
  let (negative, cs) := signed cs
  let whole := cs.takeWhile Char.isDigit
  let (fraction, rest) := match cs.dropWhile Char.isDigit with
    | '.' :: cs => (cs.takeWhile Char.isDigit, cs.dropWhile Char.isDigit)
    | cs => ([], cs)
  if whole.isEmpty && fraction.isEmpty then none
  let shift ← match rest with
    | [] => some 0
    | 'e' :: cs | 'E' :: cs => exponent? cs
    | _ => none
  return ⟨negative, natOfDigits (whole ++ fraction), shift - fraction.length⟩

/-- The number of the precision that is nearest to the numeral. -/
def Numeral.toBinary (p : Precision) (n : Numeral) : Binary :=
  Binary.ofDecimal p n.negative n.digits n.exponent

/-- The number that a numeral, `inf` or `nan` stands for; letter case makes no difference to the
words. -/
def Binary.parse? (p : Precision) (s : String) : Option Binary :=
  match Numeral.parse? s.toList with
  | some n => some (n.toBinary p)
  | none =>
    let (negative, cs) := signed s.toList
    let word : String := .ofList (cs.map Char.toLower)
    if word == "inf" || word == "infinity" then some (.infinite negative)
    else if word == "nan" then some .notANumber
    else none

end TypeDocs.Decimal
