import TypeDocs.Outline.Record
import TypeDocs.Proofs.Json.Keys

/-!
# Reading the outline of a value

The outline of a value keeps all that the value says, so each reader has one law: it gives back
what was put into the value. A record is read from a table whose keys are the titles of its
fields in order by filling the fields in that order.
-/

namespace TypeDocs

namespace Outline

@[simp] theorem asText_ofJson_text (s : String) : (ofJson (.text s)).asText = .ok s := rfl

theorem asOptional_ofJson_text {α : Type} {read : Outline → Except Fault α} {s : String} {a : α}
    (h : read (ofJson (.text s)) = .ok a) : (ofJson (.text s)).asOptional read = .ok (some a) := by
  change (do return some (← read (ofJson (.text s)))) = Except.ok (some a)
  rw [h]
  rfl

theorem ofJsonItems_eq_map (items : List Json) : ofJsonItems items = items.map ofJson := by
  induction items with
  | nil => rfl
  | cons x xs ih => simp only [ofJsonItems, ih, List.map_cons]

/-- What is read from each item of a list is read from the list. -/
theorem asList_ofJson_array {α β : Type} {read : Outline → Except Fault α} {encode : β → Json}
    {f : β → α} {xs : List β} (h : ∀ x ∈ xs, read (ofJson (encode x)) = .ok (f x)) :
    (ofJson (.array (xs.map encode))).asList read = .ok (xs.map f) := by
  have hitems : (xs.map (ofJson ∘ encode)).mapM read = .ok (xs.map f) := by
    induction xs with
    | nil => rfl
    | cons x xs ih =>
      have hx := h x List.mem_cons_self
      have hxs := ih fun y hy => h y (List.mem_cons_of_mem x hy)
      rw [List.map_cons, List.mapM_cons, Function.comp_apply, hx, hxs]
      rfl
  simp only [ofJson, asList, unmarked, ofJsonItems_eq_map, List.map_map, hitems]
  rfl

mutual

/-- An outline of a value is read with nothing expected as it is. -/
@[simp] theorem settle_ofJson : ∀ j : Json, (ofJson j).settle = .ok (ofJson j)
  | .null | .flag _ | .number _ | .text _ => rfl
  | .array items => by
    simp only [ofJson, settle, settleItems_ofJsonItems items]
    rfl
  | .object entries => by
    simp only [ofJson, settle, settleEntries_ofJsonEntries entries]
    rfl

theorem settleItems_ofJsonItems :
    ∀ items : List Json, settleItems (ofJsonItems items) = .ok (ofJsonItems items)
  | [] => rfl
  | x :: xs => by
    simp only [ofJsonItems, settleItems, settle_ofJson x, settleItems_ofJsonItems xs]
    rfl

theorem settleEntries_ofJsonEntries : ∀ entries : List (String × Json),
    settleEntries (ofJsonEntries entries) = .ok (ofJsonEntries entries)
  | [] => rfl
  | (k, v) :: es => by
    simp only [ofJsonEntries, settleEntries, settle_ofJson v, settleEntries_ofJsonEntries es]
    rfl

end

mutual

/-- A value is read from its outline with the entries of one key made one. -/
theorem asJson_ofJson : ∀ j : Json, (ofJson j).asJson = .ok j.merged
  | .null | .flag _ | .number _ | .text _ => rfl
  | .array items => by
    simp only [ofJson, asJson, asJsonItems_ofJsonItems items]
    rfl
  | .object entries => by
    simp only [ofJson, asJson, asJsonEntries_ofJsonEntries entries]
    rfl

theorem asJsonItems_ofJsonItems :
    ∀ items : List Json, asJsonItems (ofJsonItems items) = .ok (Json.mergedItems items)
  | [] => rfl
  | x :: xs => by
    simp only [ofJsonItems, asJsonItems, asJson_ofJson x, asJsonItems_ofJsonItems xs]
    rfl

theorem asJsonEntries_ofJsonEntries : ∀ entries : List (String × Json),
    asJsonEntries (ofJsonEntries entries) = .ok (Json.mergedEntries entries)
  | [] => rfl
  | (k, v) :: es => by
    have hkey : (leaf (.ofFound (.text k) (.ok (.text k)))).asText = .ok k := rfl
    simp only [ofJsonEntries, asJsonEntries, hkey, asJson_ofJson v,
      asJsonEntries_ofJsonEntries es]
    rfl

end

end Outline

namespace Record

variable {α : Type} (r : Record α) (d : Dialect)

def titles : List String := r.fields.map Field.title

/-- The first name of each field is a name of no field before it. -/
def NamesApart (names : List (List String)) : Prop :=
  ∀ i (h : i < names.length), names.findIdx? (·.contains (names[i].headD "")) = some i

instance (names : List (List String)) : Decidable (NamesApart names) :=
  inferInstanceAs (Decidable (∀ i (h : i < names.length),
    names.findIdx? (·.contains (names[i].headD "")) = some i))

/-- Whether the title of each field names that field. -/
def Unambiguous : Prop := NamesApart (r.fields.map (·.names))

/-- Fills fields with outlines in order. -/
def fillAll : List (Field α) → List Outline → α → Except Fault α
  | f :: fs, o :: os, a => do fillAll fs os (← f.fill o a)
  | _, _, a => .ok a

variable {r} in
theorem index?_title (hr : r.Unambiguous) {i : Nat} (hi : i < r.fields.length) :
    r.index? d (Outline.ofJson (.text (Field.title r.fields[i]))) = .ok (some i) := by
  have hfind : r.fields.findIdx? (·.names.contains (Field.title r.fields[i])) = some i := by
    have h := hr i (by simpa using hi)
    rwa [List.findIdx?_map, List.getElem_map] at h
  simp only [Outline.ofJson, index?, Outline.unmarked, Leaf.ofFound, hfind]

theorem finish_range (n : Nat) (hn : r.fields.length ≤ n) (a : α) :
    r.finish (List.range n).reverse a = .ok a := by
  unfold finish
  split
  · rename_i f i hfound
    have hmissing := List.find?_some hfound
    have hmem := List.mem_of_find?_eq_some hfound
    have hi : i < n := Nat.lt_of_lt_of_le (List.snd_lt_of_mem_zipIdx hmem) hn
    simp [hi] at hmissing
  · rfl

variable {r} in
/-- The fields from the `k`-th on, when those before it are filled. -/
theorem ofEntries_drop (hr : r.Unambiguous) (values : List Json)
    (hlen : values.length = r.fields.length) (k : Nat) (hk : k ≤ r.fields.length) (a : α) :
    r.ofEntries d none (Outline.ofJsonEntries ((r.titles.zip values).drop k))
      (List.range k).reverse a =
    fillAll (r.fields.drop k) ((values.map Outline.ofJson).drop k) a := by
  induction hm : r.fields.length - k generalizing k a with
  | zero =>
    have hend : r.fields.length = k := by omega
    have hz : (r.titles.zip values).drop k = [] := by simp [titles, hlen, hend]
    have hf : r.fields.drop k = [] := by simp [hend]
    rw [hz, hf]
    exact r.finish_range k (Nat.le_of_eq hend) a
  | succ m ih =>
    have hlt : k < r.fields.length := by omega
    have hv : k < values.length := by omega
    have hvm : k < (values.map Outline.ofJson).length := by simpa using hv
    have hz : (r.titles.zip values).drop k =
        (Field.title r.fields[k], values[k]) :: (r.titles.zip values).drop (k + 1) := by
      have hkz : k < (r.titles.zip values).length := by simp [titles, hlen, hlt]
      rw [List.drop_eq_getElem_cons hkz]
      simp [titles]
    have hseen : ((List.range k).reverse.contains k) = false := by simp
    rw [hz, List.drop_eq_getElem_cons hlt, List.drop_eq_getElem_cons hvm,
      List.getElem_map, Outline.ofJsonEntries, ofEntries, fillAll]
    have hkey := index?_title d hr hlt
    rw [Outline.ofJson] at hkey
    rw [hkey]
    simp only [bind, Except.bind, List.getElem?_eq_getElem hlt, hseen]
    cases r.fields[k].fill (Outline.ofJson values[k]) a with
    | error e => rfl
    | ok b =>
      have hrange : k :: (List.range k).reverse = (List.range (k + 1)).reverse := by
        rw [List.range_succ, List.reverse_append]
        rfl
      rw [hrange]
      exact ih (k + 1) (by omega) b (by omega)

variable {r} in
/-- A table with all fields under their titles is read by filling them in order. -/
theorem read_object (hr : r.Unambiguous) (values : List Json)
    (hlen : values.length = r.fields.length) :
    r.read d (Outline.ofJson (.object (r.titles.zip values))) =
      fillAll r.fields (values.map Outline.ofJson) r.blank := by
  have h := ofEntries_drop d hr values hlen 0 (Nat.zero_le _) r.blank
  simp only [List.drop_zero] at h
  exact h

end Record

end TypeDocs
