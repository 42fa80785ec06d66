import TypeDocs.Outline.Basic
import TypeDocs.Toml.Value

/-!
# Reading TOML

A record may be written as a list of its fields, and items too many are passed over. A name may
also be the only key of a table, with nothing under it.
-/

namespace TypeDocs.Toml

def textLeaf (s : String) : Outline := .leaf (.ofFound (.text s) (.ok (.text s)))

mutual

def Item.outline : Item → Outline
  | .text s => textLeaf s
  | .flag b => .leaf (.ofFound (.flag b) (.ok (.flag b)))
  | .number n => .leaf (.ofFound (.number n) (.ok (.number n)))
  | .moment => .leaf (.ofFound .moment (.ok .null))
  | .list items => .list (itemsOutline items) none
  | .table _ entries => .table (entriesOutline entries) none
  | .tables ts => .list (tablesOutline ts) none

def itemsOutline : List Item → List Outline
  | [] => []
  | x :: xs => x.outline :: itemsOutline xs

def entriesOutline : List (String × Item) → List (Outline × Outline)
  | [] => []
  | (k, v) :: es => (textLeaf k, v.outline) :: entriesOutline es

def tablesOutline : List (List (String × Item)) → List Outline
  | [] => []
  | t :: ts => .table (entriesOutline t) none :: tablesOutline ts

end

def outline (s : String) : Except Malformed Outline :=
  return .table (entriesOutline (← entries s)) none

def isEmptyOutline : Outline → Bool
  | .list [] _ | .table [] _ => true
  | _ => false

def variant (names : List String) : Outline → Except Fault String
  | .leaf l => match l.text with
    | some name => Outline.known names name
    | none => l.refuse .variantName
  | .table [(.leaf k, v)] _ => do
    let name ← Outline.known names (k.text.getD "")
    if isEmptyOutline v then return name else v.refuse .unit
  | o => o.refuse .variantName

def dialect : Dialect := ⟨some fun _ _ => none, false, variant⟩

/-- What is read from a text, all of it. -/
def readWith {α : Type} (read : Outline → Except Fault α) (s : String) : Except Fault α := do
  read (← (outline s).mapError .toml)

end TypeDocs.Toml
