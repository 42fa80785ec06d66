import TypeDocs.Decimal.Binary

/-!
# The fewest digits that read back

A finite number is told from its neighbours by every decimal that lies closer to it than to them.
Of these the one with the fewest digits is written, and the nearest of several.
-/

namespace TypeDocs.Decimal

/-- The number `digits * 10 ^ exponent`. -/
structure Digits where
  digits : Nat
  exponent : Int
  deriving DecidableEq, Repr

/-- What becomes of a number halfway between two decimals. -/
inductive Tie where
  | even
  | up
  deriving DecidableEq, Repr

/-- The interval of reals that round to `significand * 2 ^ exponent`, in quarters of its last
place. -/
def quarters (p : Precision) (significand : Nat) (exponent : Int) : Nat × Nat :=
  let m := significand
  (if m == 1 <<< (p.bits - 1) && p.least < exponent then 4 * m - 1 else 4 * m - 2, 4 * m + 2)

/-- The multiple of `10 ^ k` next to the number that reads back as the number. -/
def onGrid (p : Precision) (tie : Tie) (significand : Nat) (exponent k : Int) : Option Nat :=
  let (lo, hi) := quarters p significand exponent
  let q := exponent - 2
  let num := Nat.pow 10 (-k).toNat <<< q.toNat
  let den := Nat.pow 10 k.toNat <<< (-q).toNat
  let value := 4 * significand * num
  let inside (c : Nat) : Bool :=
    if significand % 2 == 0 then lo * num ≤ c * den && c * den ≤ hi * num
    else lo * num < c * den && c * den < hi * num
  let below := value / den
  match inside below, inside (below + 1) with
  | true, true =>
    let down := value - below * den
    let up := (below + 1) * den - value
    if down < up then some below
    else if up < down then some (below + 1)
    else some (if tie == .up || below % 2 == 1 then below + 1 else below)
  | true, false => some below
  | false, true => some (below + 1)
  | false, false => none

/-- The shortest digits of a number that is not zero. -/
def shortest (p : Precision) (tie : Tie) (significand : Nat) (exponent : Int) : Digits :=
  let top := ((significand.log2 : Int) + exponent + 1) * 30103 / 100000 + 1
  let found := (List.range 24).findSome? fun (i : Nat) =>
    (onGrid p tie significand exponent (top - i)).map fun c => Digits.mk c (top - i)
  found.getD ⟨significand, 0⟩

end TypeDocs.Decimal
