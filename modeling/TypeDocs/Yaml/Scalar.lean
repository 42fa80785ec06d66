import TypeDocs.Decimal.Numeral
import TypeDocs.Json.Basic
import TypeDocs.Text.Digit

/-!
# What a plain scalar stands for
-/

namespace TypeDocs.Yaml

inductive Meaning where
  | null
  | flag (b : Bool)
  | whole (n : Int)
  /-- A whole number of more than 64 bits. -/
  | wide
  | float (x : Decimal.Binary)
  | text
  deriving DecidableEq, Repr

/-- Digits with a zero in front, which are no number. -/
def zeroLed : List Char → Bool
  | '0' :: c :: cs => (c :: cs).all Char.isDigit
  | _ => false

def magnitude? : List Char → Option Nat
  | '0' :: 'x' :: cs => Text.natIn? 16 cs
  | '0' :: 'o' :: cs => Text.natIn? 8 cs
  | '0' :: 'b' :: cs => Text.natIn? 2 cs
  | cs => if zeroLed cs then none else Text.natIn? 10 cs

/-- The whole number that a scalar spells, however large. -/
def whole? : List Char → Option Int
  | '+' :: cs => (magnitude? cs).map Int.ofNat
  | '-' :: cs => (magnitude? cs).map fun n => -(n : Int)
  | cs => (magnitude? cs).map Int.ofNat

/-- A whole number of at most 128 bits. -/
def wholeMeaning? (cs : List Char) : Option Meaning := do
  let n ← whole? cs
  if -(1 <<< 63) ≤ n ∧ n < 1 <<< 64 then return .whole n
  else if -(1 <<< 127) ≤ n ∧ n < 1 <<< 128 then return .wide
  else none

/-- Whether, but for a sign, a scalar is digits with a zero in front. -/
def isZeroLed (cs : List Char) : Bool := zeroLed (Decimal.signed cs).2

def float? (s : String) : Option Decimal.Binary :=
  let cs := s.toList
  let plain := match cs with
    | '+' :: cs => cs
    | cs => cs
  let word : String := .ofList plain
  if [".inf", ".Inf", ".INF"].contains word then some (.infinite false)
  else if ["-.inf", "-.Inf", "-.INF"].contains s then some (.infinite true)
  else if [".nan", ".NaN", ".NAN"].contains s then some .notANumber
  else if cs.head? == some '+' && (plain.head? == some '+' || plain.head? == some '-') then none
  else ((Decimal.Numeral.parse? plain).map (·.toBinary Decimal.double)).filter (·.isFinite)

def flag? (s : String) : Option Bool :=
  if ["true", "True", "TRUE"].contains s then some true
  else if ["false", "False", "FALSE"].contains s then some false
  else none

def isNull (s : String) : Bool := ["null", "Null", "NULL", "~"].contains s

def meaning (s : String) : Meaning :=
  if s.isEmpty || isNull s then .null
  else match flag? s with
    | some b => .flag b
    | none => match wholeMeaning? s.toList with
      | some m => m
      | none =>
        if isZeroLed s.toList then .text
        else match float? s with
          | some x => .float x
          | none => .text

end TypeDocs.Yaml
