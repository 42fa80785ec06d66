import Mathlib.Data.List.Basic
import TypeDocs.Text.Blank

/-!
# Runs between separators

A text falls into runs without a separator. Where no separator stands behind another the runs, with
the separators at the ends of the text, say all of it.
-/

namespace TypeDocs.Text

/-- Where a run of members without a property ends is told by the first that has it. -/
theorem eq_and_eq_of_append_eq {α : Type} {p : α → Bool} {as bs xs ys : List α}
    (has : ∀ a ∈ as, p a = false) (hbs : ∀ b ∈ bs, p b = false) (hxs : ∀ x ∈ xs.head?, p x = true)
    (hys : ∀ y ∈ ys.head?, p y = true) (h : as ++ xs = bs ++ ys) : as = bs ∧ xs = ys := by
  have hrun {ls rest : List α} (hls : ∀ l ∈ ls, p l = false)
      (hrest : ∀ x ∈ rest.head?, p x = true) :
      (ls ++ rest).takeWhile (fun a => !p a) = ls := by
    rw [List.takeWhile_append_of_pos (by simpa using hls)]
    cases rest with
    | nil => simp
    | cons x rest => simp [hrest x rfl]
  have hruns : as = bs := by rw [← hrun has hxs, h, hrun hbs hys]
  subst hruns
  exact ⟨rfl, List.append_cancel_left h⟩

variable {x : Char} {cs ds : List Char}

/-- The maximal runs of characters that are not the separator, in order. -/
def runs (x : Char) (cs : List Char) : List (List Char) :=
  (cs.splitOn x).filter fun run => !run.isEmpty

theorem runs_append_cons (x : Char) (cs ds : List Char) :
    runs x (cs ++ x :: ds) = runs x cs ++ runs x ds := by
  rw [runs, List.splitOn_append_cons_self, List.filter_append]
  rfl

theorem runs_cons_self (x : Char) (cs : List Char) : runs x (x :: cs) = runs x cs :=
  runs_append_cons x [] cs

theorem runs_of_notMem (hne : cs ≠ []) (h : x ∉ cs) : runs x cs = [cs] := by
  rw [runs, List.splitOn_eq_singleton h]
  simp [hne]

/-- No separator stands behind another. -/
def Apart (x : Char) (cs : List Char) : Prop := ¬ [x, x] <:+: cs

theorem apart_nil (x : Char) : Apart x [] := by
  rw [Apart, List.infix_nil]
  exact List.cons_ne_nil _ _

theorem apart_cons_iff {c : Char} :
    Apart x (c :: cs) ↔ (c = x → cs.head? ≠ some x) ∧ Apart x cs := by
  have hpair : [x, x] <+: c :: cs ↔ c = x ∧ cs.head? = some x := by
    rw [List.cons_prefix_cons, List.singleton_prefix_iff_head?_eq_some, eq_comm]
  rw [Apart, List.infix_cons_iff, hpair, not_or, not_and]
  rfl

theorem Apart.of_suffix (h : Apart x cs) (hds : ds <:+ cs) : Apart x ds :=
  fun hpair => h (hpair.trans hds.isInfix)

theorem apart_append_of_notMem (h : x ∉ cs) (hds : Apart x ds) : Apart x (cs ++ ds) := by
  induction cs with
  | nil => exact hds
  | cons c cs ih =>
    rw [List.mem_cons, not_or] at h
    rw [List.cons_append, apart_cons_iff]
    exact ⟨fun hc => absurd hc.symm h.1, ih h.2⟩

theorem Apart.append_cons {c : Char} (h : Apart x cs) (hc : c ≠ x) (hds : Apart x ds) :
    Apart x (cs ++ c :: ds) := by
  have hlast : Apart x (c :: ds) := apart_cons_iff.mpr ⟨fun h => absurd h hc, hds⟩
  induction cs with
  | nil => exact hlast
  | cons b cs ih =>
    rw [apart_cons_iff] at h
    rw [List.cons_append, apart_cons_iff]
    refine ⟨fun hb => ?_, ih h.2⟩
    cases cs with
    | nil => simpa using hc
    | cons => exact h.1 hb

theorem getLast?_ne_of_notMem (h : x ∉ cs) : cs.getLast? ≠ some x :=
  fun hlast => h (List.mem_of_getLast? hlast)

/-- The run that is begun is in `run`. -/
theorem eq_flatMap_runs_append {run : List Char} (hrun : x ∉ run)
    (h : Apart x (x :: (run ++ cs))) :
    x :: (run ++ cs) = (runs x (run ++ cs)).flatMap (x :: ·) ++
      if (x :: (run ++ cs)).getLast? = some x then [x] else [] := by
  induction cs generalizing run with
  | nil =>
    rw [List.append_nil]
    by_cases hne : run = []
    · rw [hne]
      simp [runs]
    · have hlast : (x :: run).getLast? ≠ some x := by
        rw [List.getLast?_cons_of_ne_nil hne]
        exact getLast?_ne_of_notMem hrun
      rw [runs_of_notMem hne hrun, if_neg hlast, List.flatMap_singleton, List.append_nil]
  | cons c cs ih =>
    by_cases hc : c = x
    · -- The run ends here. It is not empty, as a separator stands before it.
      subst hc
      have hne : run ≠ [] := by
        rintro rfl
        exact (apart_cons_iff.mp h).1 rfl rfl
      have happart : Apart c (c :: ([] ++ cs)) :=
        h.of_suffix (List.suffix_append (c :: run) (c :: cs))
      have hrest := ih List.not_mem_nil happart
      have hlast : (c :: (run ++ c :: cs)).getLast? = (c :: cs).getLast? := by
        rw [← List.cons_append, List.getLast?_append_of_ne_nil _ (List.cons_ne_nil c cs)]
      rw [runs_append_cons, runs_of_notMem hne hrun, List.flatMap_append, List.flatMap_singleton,
        hlast, List.append_assoc]
      exact congrArg (c :: run ++ ·) hrest
    · have hgrown : x ∉ run ++ [c] := by simp [hrun, Ne.symm hc]
      have hmove : run ++ c :: cs = run ++ [c] ++ cs := (List.append_cons run c cs)
      rw [hmove] at h ⊢
      exact ih hgrown h

/-- A text that begins with the separator has one before each of its runs, and one at its end if it
ends with it. -/
theorem eq_flatMap_runs (h : Apart x (x :: cs)) :
    x :: cs = (runs x cs).flatMap (x :: ·) ++
      if (x :: cs).getLast? = some x then [x] else [] :=
  have hbegun : Apart x (x :: ([] ++ cs)) := h
  eq_flatMap_runs_append List.not_mem_nil hbegun

end TypeDocs.Text
