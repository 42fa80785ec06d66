import TypeDocs.Json.Basic
import TypeDocs.Text.Naming

/-!
# Recasing the keys of a value

Every key at every depth is renamed, and nothing else changes. Keys that become equal are one key:
it stands where the first stood and has the value of the last.
-/

namespace TypeDocs.Json

mutual

def recase (naming : Text.Naming) : Json → Json
  | .array items => .array (recaseItems naming items)
  | .object entries => .object (distinct (recaseEntries naming entries))
  | j => j

def recaseItems (naming : Text.Naming) : List Json → List Json
  | [] => []
  | x :: xs => recase naming x :: recaseItems naming xs

def recaseEntries (naming : Text.Naming) : List (String × Json) → List (String × Json)
  | [] => []
  | (k, v) :: es => (naming.apply k, recase naming v) :: recaseEntries naming es

end

theorem recaseItems_eq_map (naming : Text.Naming) (xs : List Json) :
    recaseItems naming xs = xs.map (recase naming) := by
  induction xs with
  | nil => rfl
  | cons x xs ih => simp [recaseItems, ih]

theorem recaseEntries_eq_map (naming : Text.Naming) (es : List (String × Json)) :
    recaseEntries naming es = es.map fun e => (naming.apply e.1, recase naming e.2) := by
  induction es with
  | nil => rfl
  | cons e es ih => simp [recaseEntries, ih]

end TypeDocs.Json
