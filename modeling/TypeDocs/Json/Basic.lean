import TypeDocs.Decimal.Layout

/-!
# JSON values

The entries of an object are in the order in which their keys first appeared, one for each key.
-/

namespace TypeDocs

/-- A whole number between `-2 ^ 63` and `2 ^ 64 - 1`, or a floating number. -/
inductive Number where
  | whole (n : Int)
  | float (x : Decimal.Binary)
  deriving DecidableEq, Repr

inductive Json where
  | null
  | flag (b : Bool)
  | number (n : Number)
  | text (s : String)
  | array (items : List Json)
  | object (entries : List (String × Json))
  deriving Repr, Inhabited

/-- Puts a value under a key: in place when the key is there, at the end when it is not. -/
def put {κ α : Type} [BEq κ] (entries : List (κ × α)) (key : κ) (value : α) : List (κ × α) :=
  match entries with
  | [] => [(key, value)]
  | (k, v) :: rest => if k == key then (k, value) :: rest else (k, v) :: put rest key value

/-- The entries in order, a later value taking the place of an earlier one of its key. -/
def distinct {α : Type} (entries : List (String × α)) : List (String × α) :=
  entries.foldl (fun es (k, v) => put es k v) []

theorem lookup_put {κ α : Type} [BEq κ] [LawfulBEq κ] (entries : List (κ × α)) (key k : κ)
    (value : α) :
    (put entries key value).lookup k = if k == key then some value else entries.lookup k := by
  induction entries with
  | nil => cases h : k == key <;> simp [put, List.lookup_cons, h]
  | cons e rest ih =>
    obtain ⟨k', v⟩ := e
    by_cases h' : k' = key
    · subst h'
      cases h : k == k' <;> simp [put, List.lookup_cons, h]
    · cases h : k == k' with
      | true =>
        have : (k == key) = false := by rw [eq_of_beq h]; exact beq_eq_false_iff_ne.mpr h'
        simp [put, List.lookup_cons, h, h', this]
      | false => simp only [put, List.lookup_cons, h, beq_iff_eq, h', if_false, ih]

namespace Json

/-- The value under a key of an object. -/
def get? (j : Json) (key : String) : Option Json :=
  match j with
  | .object entries => entries.lookup key
  | _ => none

end Json

/-- Floating numbers of JSON show the exponents 16 and up, with a sign, and -6 and below. -/
def Number.jsonLayout : Decimal.Layout := ⟨.even, some (-5, 15), true, true⟩

/-- The text of a number in the layout given for floating ones. -/
def Number.textIn (l : Decimal.Layout) : Number → String
  | .whole n => toString n
  | .float x => l.text Decimal.double x

/-- A number that is no number and an infinite one have no JSON text. -/
def Number.toText : Number → String
  | .whole n => toString n
  | .float x => if x.isFinite then Number.jsonLayout.text Decimal.double x else "null"

end TypeDocs
