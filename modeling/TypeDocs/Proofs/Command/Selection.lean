import TypeDocs.Command.Select
import TypeDocs.Proofs.Outcome

/-!
# What is selected

Selecting types gives the first of each name that is asked for, in the order of the names. It fails
exactly when there is a name that no type has, and then the failure tells the first.
-/

namespace TypeDocs.Command

/-- What is selected for the names that are asked for: all types for none. -/
def Selects (available : List TypeDescription) (requested : List String)
    (selected : List TypeDescription) : Prop :=
  if requested = [] then selected = available
  else List.Forall₂ (fun name t => available.find? (isNamed name) = some t) requested selected

/-- The first of the names that are asked for and that no type has. -/
def FirstUnknown (available : List TypeDescription) (requested : List String) (name : String) :
    Prop :=
  ∃ known rest, requested = known ++ name :: rest ∧
    (∀ n ∈ known, available.find? (isNamed n) ≠ none) ∧ available.find? (isNamed name) = none

variable {available selected : List TypeDescription} {requested : List String}

theorem Selects.find?_ne_none (h : Selects available requested selected) {name : String}
    (hname : name ∈ requested) : available.find? (isNamed name) ≠ none := by
  rw [Selects, if_neg (List.ne_nil_of_mem hname)] at h
  induction h with
  | nil => cases hname
  | cons hfound _ ih =>
    rcases List.mem_cons.mp hname with rfl | hname
    · simp [hfound]
    · exact ih hname

theorem Selects.unique {other : List TypeDescription} (h : Selects available requested selected)
    (hother : Selects available requested other) : selected = other := by
  unfold Selects at h hother
  split at h
  · next hnone =>
    rw [if_pos hnone] at hother
    exact h.trans hother.symm
  · next hsome =>
    rw [if_neg hsome] at hother
    clear hsome
    induction h generalizing other with
    | nil =>
      cases hother
      rfl
    | cons hfound _ ih =>
      cases hother with
      | cons hfound' hrest =>
        rw [hfound] at hfound'
        cases hfound'
        rw [ih hrest]

theorem FirstUnknown.mem {name : String} (h : FirstUnknown available requested name) :
    name ∈ requested := by
  obtain ⟨known, rest, rfl, -, -⟩ := h
  exact List.mem_append_right _ List.mem_cons_self

theorem FirstUnknown.find?_eq_none {name : String} (h : FirstUnknown available requested name) :
    available.find? (isNamed name) = none := by
  obtain ⟨known, rest, -, -, hnone⟩ := h
  exact hnone

theorem selectTypes_cases (kind : String) (available : List TypeDescription)
    (requested : List String) :
    (∃ ts, selectTypes kind available requested = .ok ts ∧ Selects available requested ts) ∨
    ∃ name, selectTypes kind available requested = .error (unknownType kind name) ∧
      FirstUnknown available requested name := by
  unfold selectTypes Selects
  cases requested with
  | nil => exact Or.inl ⟨available, rfl, rfl⟩
  | cons name names =>
    rw [if_neg (by simp)]
    simp only [if_neg (List.cons_ne_nil name names)]
    refine mapM_cases
      (P := fun r => (∃ ts, r = .ok ts ∧ List.Forall₂
          (fun name t => available.find? (isNamed name) = some t) (name :: names) ts) ∨
        ∃ unknown, r = .error (unknownType kind unknown) ∧
          FirstUnknown available (name :: names) unknown)
      (fun ts hall => ?_) fun known unknown rest e hnames hknown hunknown => ?_
    · refine Or.inl ⟨ts, rfl, hall.imp fun name t hfound => ?_⟩
      split at hfound
      · next ht => cases hfound; exact ht
      · cases hfound
    · split at hunknown
      · cases hunknown
      · next hnone =>
        cases hunknown
        refine Or.inr ⟨unknown, rfl, known, rest, hnames, fun n hn hfind => ?_, hnone⟩
        obtain ⟨t, ht⟩ := hknown n hn
        rw [hfind] at ht
        cases ht

end TypeDocs.Command
