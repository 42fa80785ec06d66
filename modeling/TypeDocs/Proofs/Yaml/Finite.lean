import TypeDocs.Proofs.Outline.Finite
import TypeDocs.Yaml.Outline

/-!
# Numbers in YAML texts are finite

The words for infinite numbers and for what is no number are read as null where nothing in
particular is expected.
-/

namespace TypeDocs.Yaml

open Outline (Finite)

theorem Meaning.toJson_finite {m : Meaning} {s : String} {j : Json} (h : m.toJson s = .ok j) :
    j.Finite := by
  cases m with
  | null | flag b | whole n | text => exact Except.ok.inj h ▸ trivial
  | wide => cases h
  | float x =>
    rw [← Except.ok.inj h]
    split
    · next hx => exact hx
    · trivial

theorem scalarValue_finite {tag : Option String} {s : String} {style : Style} {j : Json}
    (h : scalarValue tag s style = .ok j) : j.Finite := by
  unfold scalarValue at h
  split at h
  · exact Meaning.toJson_finite h
  split at h
  · exact Meaning.toJson_finite h
  · cases h

theorem scalarOutline_finite (tag : Option String) (s : String) (style : Style) :
    (scalarOutline tag s style).Finite := by
  unfold scalarOutline
  split
  · refine .tagged (.leaf fun j hj => ?_)
    have hvalue : scalarValue none s style = .ok j := hj
    exact scalarValue_finite hvalue
  · exact .leaf fun j hj => scalarValue_finite hj

theorem marked_finite {o : Outline} (tag : Option String) (h : o.Finite) :
    (marked tag o).Finite := by
  unfold marked
  split
  · exact .tagged h
  · exact h

/-- What holds of the result of each step, whatever the state, holds of all results. -/
theorem forall_mem_mapM {σ α β : Type} {f : α → StateM σ β} {P : β → Prop}
    (h : ∀ x s, P ((f x).run s).1) (xs : List α) (s : σ) : ∀ y ∈ ((xs.mapM f).run s).1, P y := by
  induction xs generalizing s with
  | nil => exact List.forall_mem_nil _
  | cons x xs ih =>
    rw [List.mapM_cons]
    exact List.forall_mem_cons.mpr ⟨h x s, ih _⟩

theorem outlineWith_finite (a : Aliases) {inner : Option (Node → StateM Nat Outline)}
    (h : ∀ read ∈ inner, ∀ n s, ((read n).run s).1.Finite) (n : Node) (s : Nat) :
    ((outlineWith a inner n).run s).1.Finite := by
  unfold outlineWith
  rw [StateT.run_bind]
  generalize (a.follow n).run s = r
  obtain ⟨node, s'⟩ := r
  simp only [bind]
  split
  · exact .fault _
  · exact scalarOutline_finite _ _ _
  · exact marked_finite _ (.list (forall_mem_mapM (h _ rfl) _ _))
  · refine marked_finite _ (.table ?_)
    refine forall_mem_mapM (P := fun e : Outline × Outline => e.2.Finite) ?_ _ _
    exact fun (e : Node × Node) _ => h _ rfl e.2 _
  · exact .fault _

theorem outlineOf_finite (a : Aliases) (depth : Nat) (n : Node) (s : Nat) :
    ((outlineOf a depth n).run s).1.Finite := by
  induction depth generalizing n s with
  | zero => exact outlineWith_finite a (fun _ h => by cases h) n s
  | succ depth ih =>
    refine outlineWith_finite a (fun read hread => ?_) n s
    rw [Option.mem_some_iff] at hread
    exact hread ▸ ih

theorem outline_finite {s : String} {o : Outline} (h : outline s = .ok o) : o.Finite := by
  obtain ⟨ts, -, h⟩ := exists_of_bind_eq_ok h
  obtain ⟨n, -, h⟩ := exists_of_bind_eq_ok h
  cases n with
  | none =>
    cases h
    exact .leaf fun j hj => Except.ok.inj hj ▸ trivial
  | some n =>
    cases h
    exact outlineOf_finite _ _ n 0

end TypeDocs.Yaml
