import TypeDocs.Proofs.Decimal.Text
import TypeDocs.Proofs.Outline.Field

/-!
# Outlines without infinite numbers

A number that is read from an outline stands in a leaf of it. So if every number in the leaves is
finite, then so are those read from what is held for a field, or from an item of a list.
-/

namespace TypeDocs

/-- Not a number that has no text of its own. -/
def Json.Finite : Json → Prop
  | .number n => n.Finite
  | _ => True

instance : DecidablePred Json.Finite
  | .number n => inferInstanceAs (Decidable n.Finite)
  | .null | .flag _ | .text _ | .array _ | .object _ => inferInstanceAs (Decidable True)

/-- No leaf is a number that has no text of its own. -/
inductive Outline.Finite : Outline → Prop
  | leaf {l : Leaf} (h : ∀ j, l.value = .ok j → j.Finite) : Finite (.leaf l)
  | list {items : List Outline} {stop : Option Fault} (h : ∀ o ∈ items, Finite o) :
    Finite (.list items stop)
  | table {entries : List (Outline × Outline)} {stop : Option Fault}
    (h : ∀ e ∈ entries, Finite e.2) : Finite (.table entries stop)
  | tagged {tag : String} {content : Outline} (h : Finite content) : Finite (.tagged tag content)
  | fault (f : Fault) : Finite (.fault f)

namespace Outline.Finite

variable {α : Type} {o : Outline}

theorem unmarked (h : o.Finite) : o.unmarked.Finite := by
  cases h with
  | leaf h => exact .leaf h
  | list h => exact .list h
  | table h => exact .table h
  | tagged h => exact h
  | fault f => exact .fault f

theorem asJson {j : Json} (h : o.Finite) (hj : o.asJson = .ok j) : j.Finite := by
  cases h with
  | leaf h => exact h j hj
  | list h =>
    obtain ⟨items, -, hitems⟩ := exists_of_bind_eq_ok hj
    exact eq_of_orStop_eq_ok hitems ▸ trivial
  | table h =>
    obtain ⟨entries, -, hentries⟩ := exists_of_bind_eq_ok hj
    exact eq_of_orStop_eq_ok hentries ▸ trivial
  | tagged h => cases hj
  | fault f => cases hj

/-- What is in a list that was read was read from a part of the outline. -/
theorem asList {read : Outline → Except Fault α} {as : List α} {a : α} (h : o.Finite)
    (has : o.asList read = .ok as) (ha : a ∈ as) :
    ∃ item : Outline, item.Finite ∧ read item = .ok a := by
  have hfinite := h.unmarked
  unfold Outline.asList at has
  split at has
  · next items stop ho =>
    rw [ho] at hfinite
    obtain ⟨bs, hbs, hstop⟩ := exists_of_bind_eq_ok has
    rw [← eq_of_orStop_eq_ok hstop] at ha
    obtain ⟨item, hitem, hread⟩ := exists_of_mem_mapM hbs ha
    cases hfinite with
    | list hall => exact ⟨item, hall item hitem, hread⟩
  · split at has
    · cases has
      cases ha
    · exact (Leaf.refuse_ne_ok has).elim
  · exact (refuse_ne_ok has).elim

theorem part? {r : Record α} {d : Dialect} {i : ℕ} {part : Outline} (h : o.Finite)
    (hpart : r.part? d i o = some part) : part.Finite := by
  have hfinite := h.unmarked
  unfold Record.part? at hpart
  split at hpart
  · next entries stop ho =>
    rw [ho] at hfinite
    obtain ⟨e, he, rfl⟩ := Option.map_eq_some_iff.mp hpart
    cases hfinite with
    | table hall => exact hall e (List.mem_of_find?_eq_some he)
  · next items stop ho =>
    rw [ho] at hfinite
    cases hfinite with
    | list hall => exact hall part (List.mem_of_getElem? hpart)
  · cases hpart

/-- What a record was read to hold is blank or was read from a part of the outline. -/
theorem blank_or_read {β : Type} {r : Record α} {d : Dialect} {i : ℕ}
    {read : Outline → Except Fault β} {get : α → β} {a : α} (hr : r.Owns i read get) (h : o.Finite)
    (ha : r.read d o = .ok a) :
    get a = get r.blank ∨ ∃ part : Outline, part.Finite ∧ read part = .ok (get a) := by
  have hread := hr.of_read ha
  cases hpart : r.part? d i o with
  | none =>
    rw [hpart] at hread
    exact .inl hread
  | some part =>
    rw [hpart] at hread
    exact .inr ⟨part, h.part? hpart, hread⟩

end Outline.Finite

end TypeDocs
