import TypeDocs.Decimal.Shortest

/-!
# The text of a floating number

What is left open by the digits of a number is one record: where positional notation ends, whether
a whole number shows a fraction, and how an exponent is written.
-/

namespace TypeDocs.Decimal

structure Layout where
  tie : Tie
  /-- The powers of ten of the first digit that are written positionally; all when absent. -/
  positional : Option (Int × Int)
  /-- Whether a whole number ends in `.0`. -/
  fraction : Bool
  /-- Whether a positive exponent has a sign. -/
  plus : Bool

/-- No exponent and no empty fraction. -/
def Layout.plain : Layout := ⟨.up, none, false, false⟩

namespace Layout

def zeros (n : Nat) : List Char := List.replicate n '0'

def whole (l : Layout) : List Char := if l.fraction then ['.', '0'] else []

def positionalText (l : Layout) (d : Digits) : List Char :=
  let ds := Nat.toDigits 10 d.digits
  let point := (ds.length : Int) + d.exponent
  if d.exponent ≥ 0 then ds ++ zeros d.exponent.toNat ++ l.whole
  else if point > 0 then ds.take point.toNat ++ ['.'] ++ ds.drop point.toNat
  else ['0', '.'] ++ zeros (-point).toNat ++ ds

def scientificText (l : Layout) (d : Digits) : List Char :=
  let ds := Nat.toDigits 10 d.digits
  let e := (ds.length : Int) + d.exponent - 1
  let mantissa := match ds with
    | first :: second :: rest => first :: '.' :: second :: rest
    | ds => ds
  mantissa ++ ['e'] ++ (if e < 0 then ['-'] else if l.plus then ['+'] else []) ++
    Nat.toDigits 10 e.natAbs

/-- The text of a number of the precision. -/
def text (l : Layout) (p : Precision) : Binary → String
  | .notANumber => "NaN"
  | .infinite negative => if negative then "-inf" else "inf"
  | .finite negative m e =>
    let body :=
      if m == 0 then '0' :: l.whole
      else
        let d := shortest p l.tie m e
        let first := ((Nat.toDigits 10 d.digits).length : Int) + d.exponent - 1
        match l.positional with
        | some (lo, hi) =>
          if lo ≤ first && first ≤ hi then l.positionalText d else l.scientificText d
        | none => l.positionalText d
    .ofList (if negative then '-' :: body else body)

end Layout

end TypeDocs.Decimal
