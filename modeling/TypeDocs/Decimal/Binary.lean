/-!
# Binary floating numbers

A finite number is a significand times a power of two. Every operation takes the exact result and
rounds it once, to the nearest number of the precision and to the even one of two.
-/

namespace TypeDocs.Decimal

/-- Significands have at most `bits` binary digits, exponents run from `least` to `most`. -/
structure Precision where
  bits : Nat
  least : Int
  most : Int

def double : Precision := ⟨53, -1074, 971⟩

def single : Precision := ⟨24, -149, 104⟩

inductive Binary where
  | finite (negative : Bool) (significand : Nat) (exponent : Int)
  | infinite (negative : Bool)
  | notANumber
  deriving DecidableEq, Repr

namespace Binary

/-- The whole number nearest to a ratio, the even one of two. -/
def nearestWhole (num den : Nat) : Nat :=
  let q := num / den
  let r := num % den
  if 2 * r < den then q else if 2 * r > den then q + 1 else q + q % 2

/-- The number nearest to `num / den`. -/
def ofRatio (p : Precision) (negative : Bool) (num den : Nat) : Binary :=
  if num == 0 then .finite negative 0 p.least
  else
    let scaled (e : Int) : Nat × Nat :=
      if e < 0 then (num <<< (-e).toNat, den) else (num, den <<< e.toNat)
    let guess := max ((num.log2 : Int) - den.log2 - p.bits) p.least
    let (a, b) := scaled guess
    let e := if a / b < 1 <<< p.bits then guess else guess + 1
    let (a, b) := scaled e
    let m := nearestWhole a b
    let (m, e) := if m == 1 <<< p.bits then (1 <<< (p.bits - 1), e + 1) else (m, e)
    if e > p.most then .infinite negative else .finite negative m e

/-- The number nearest to `digits * 10 ^ exponent`. Since a power of ten is at least that power of
eight, exponents far out of range are told without computing the power. -/
def ofDecimal (p : Precision) (negative : Bool) (digits : Nat) (exponent : Int) : Binary :=
  let size := (digits.log2 : Int) + 3 * exponent
  if digits == 0 then .finite negative 0 p.least
  else if exponent > 0 && size > p.most + p.bits + 2 then .infinite negative
  else if exponent < 0 && size < p.least - 4 then .finite negative 0 p.least
  else if exponent < 0 then ofRatio p negative digits (Nat.pow 10 (-exponent).toNat)
  else ofRatio p negative (digits * Nat.pow 10 exponent.toNat) 1

def ofNat (p : Precision) (n : Nat) : Binary := ofRatio p false n 1

/-- The ratio `significand * 2 ^ exponent`. -/
def ratio (significand : Nat) (exponent : Int) : Nat × Nat :=
  if exponent < 0 then (significand, 1 <<< (-exponent).toNat)
  else (significand <<< exponent.toNat, 1)

def isZero : Binary → Bool
  | .finite _ m _ => m == 0
  | _ => false

def isFinite : Binary → Bool
  | .finite .. => true
  | _ => false

def negate : Binary → Binary
  | .finite s m e => .finite (!s) m e
  | .infinite s => .infinite (!s)
  | .notANumber => .notANumber

/-- The product of two finite numbers. -/
def mul (p : Precision) : Binary → Binary → Binary
  | .finite s m e, .finite s' m' e' =>
    let (a, b) := ratio m e
    let (a', b') := ratio m' e'
    ofRatio p (s != s') (a * a') (b * b')
  | _, _ => .notANumber

/-- The quotient of two finite numbers, the second not zero. -/
def div (p : Precision) : Binary → Binary → Binary
  | .finite s m e, .finite s' m' e' =>
    let (a, b) := ratio m e
    let (a', b') := ratio m' e'
    if a' == 0 then .notANumber else ofRatio p (s != s') (a * b') (b * a')
  | _, _ => .notANumber

end Binary

end TypeDocs.Decimal
