/-!
# Sets and maps of characters given by ranges

A Unicode property is a list of ranges of code points, both ends included. A case map is a list of
progressions: the code points from `first` to `last` in steps of `step` move by `shift`.
-/

namespace TypeDocs.Text

abbrev CodeRanges := List (Nat × Nat)

def CodeRanges.has (r : CodeRanges) (c : Char) : Bool :=
  r.any fun (first, last) => first ≤ c.toNat && c.toNat ≤ last

structure Progression where
  first : Nat
  last : Nat
  step : Nat
  shift : Int

def Progression.has (p : Progression) (n : Nat) : Bool :=
  p.first ≤ n && n ≤ p.last && (n - p.first) % p.step == 0

/-- Where the first progression with the code point moves it. -/
def shifted (ps : List Progression) (n : Nat) : Nat :=
  match ps.find? (·.has n) with
  | some p => (n + p.shift).toNat
  | none => n

end TypeDocs.Text
