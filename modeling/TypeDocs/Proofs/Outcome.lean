import Mathlib.Data.List.Forall2

/-!
# Steps that may fail

What succeeds in several steps has steps that all succeed, and what fails has a first step that
fails.
-/

namespace TypeDocs

/-- What succeeds in two steps has a first step that succeeds. -/
theorem exists_of_bind_eq_ok {ε α β : Type} {x : Except ε α} {f : α → Except ε β} {b : β}
    (h : x.bind f = .ok b) : ∃ a, x = .ok a ∧ f a = .ok b := by
  cases x with
  | error e => cases h
  | ok a => exact ⟨a, rfl, h⟩

theorem exists_of_map_eq_ok {ε α β : Type} {x : Except ε α} {f : α → β} {b : β}
    (h : x.map f = .ok b) : ∃ a, x = .ok a ∧ f a = b := by
  cases x with
  | error e => cases h
  | ok a => exact ⟨a, rfl, Except.ok.inj h⟩

/-- What is done for one element after the other is done for all, or fails at the first for which
it cannot be done. -/
theorem mapM_cases {ε α β : Type} {f : α → Except ε β} {xs : List α}
    {P : Except ε (List β) → Prop}
    (hok : ∀ ys, List.Forall₂ (fun x y => f x = .ok y) xs ys → P (.ok ys))
    (herror : ∀ before x after e, xs = before ++ x :: after → (∀ b ∈ before, ∃ y, f b = .ok y) →
      f x = .error e → P (.error e)) : P (xs.mapM f) := by
  induction xs generalizing P with
  | nil => exact hok [] .nil
  | cons x xs ih =>
    rw [List.mapM_cons]
    cases hx : f x with
    | error e => exact herror [] x xs e rfl (List.forall_mem_nil _) hx
    | ok y =>
      change P ((xs.mapM f).bind fun ys => .ok (y :: ys))
      refine ih (P := fun r => P (r.bind fun ys => .ok (y :: ys))) (fun ys hall => ?_)
        fun before x' after e hxs hbefore hx' => ?_
      · exact hok (y :: ys) (.cons hx hall)
      · refine herror (x :: before) x' after e (by rw [hxs]; rfl) ?_ hx'
        exact List.forall_mem_cons.mpr ⟨⟨y, hx⟩, hbefore⟩

/-- What is made for all elements together is made for one of them. -/
theorem exists_of_mem_mapM {ε α β : Type} {f : α → Except ε β} {xs : List α} {ys : List β}
    {y : β} (h : xs.mapM f = .ok ys) (hy : y ∈ ys) : ∃ x ∈ xs, f x = .ok y := by
  induction xs generalizing ys with
  | nil =>
    cases h
    cases hy
  | cons x xs ih =>
    rw [List.mapM_cons] at h
    obtain ⟨z, hz, h⟩ := exists_of_bind_eq_ok h
    obtain ⟨zs, hzs, h⟩ := exists_of_bind_eq_ok h
    cases h
    rcases List.mem_cons.mp hy with rfl | hy
    · exact ⟨x, List.mem_cons_self, hz⟩
    · obtain ⟨x', hx', hf⟩ := ih hzs hy
      exact ⟨x', List.mem_cons_of_mem x hx', hf⟩

end TypeDocs
