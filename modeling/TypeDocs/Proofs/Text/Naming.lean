import TypeDocs.Text.Naming

/-!
# Names without marks

No character below the first combining mark joins the one before it, so the clusters of such a
name are its characters.
-/

namespace TypeDocs.Text

theorem CodeRanges.has_eq_false {r : CodeRanges} {n : Nat} (hr : (r.all fun p => n ≤ p.1) = true)
    {c : Char} (hc : c.toNat < n) : r.has c = false := by
  rw [List.all_eq_true] at hr
  rw [has, List.any_eq_false]
  intro p hp
  have hfirst : n ≤ p.1 := of_decide_eq_true (hr p hp)
  have hlt : ¬ p.1 ≤ c.toNat := by omega
  simp [hlt]

/-- Where the combining marks begin. -/
def firstMark : Nat := 0x300

theorem joins_eq_false {a b : Char} (ha : a.toNat < firstMark) (hb : b.toNat < firstMark) :
    joins a b = false := by
  have hextending : extendingRanges.has b = false :=
    CodeRanges.has_eq_false (n := firstMark) (by decide +kernel) hb
  have hprepend : prependRanges.has a = false :=
    CodeRanges.has_eq_false (n := firstMark) (by decide +kernel) ha
  rw [joins, hextending, hprepend, Bool.or_self, Bool.and_false]

theorem clustersFrom_of_lt {a : Char} {cs : List Char} (ha : a.toNat < firstMark)
    (hcs : ∀ c ∈ cs, c.toNat < firstMark) : clustersFrom a cs = ([a], cs.map fun c => [c]) := by
  induction cs generalizing a with
  | nil => rfl
  | cons b cs ih =>
    have hb := hcs b List.mem_cons_self
    have hrest := ih hb fun c hc => hcs c (List.mem_cons_of_mem b hc)
    rw [clustersFrom, hrest]
    simp [joins_eq_false ha hb]

theorem clusters_of_lt {cs : List Char} (hcs : ∀ c ∈ cs, c.toNat < firstMark) :
    clusters cs = cs.map fun c => [c] := by
  cases cs with
  | nil => rfl
  | cons a cs =>
    rw [clusters, clustersFrom_of_lt (hcs a List.mem_cons_self) fun c hc =>
      hcs c (List.mem_cons_of_mem a hc)]
    rfl

/-- The words of a name without marks are found among its characters. -/
theorem Naming.apply_of_lt (naming : Naming) {name : String}
    (h : (name.toList.all fun c => c.toNat < firstMark) = true) :
    naming.apply name = .ofList (naming.join
      ((wordsFrom [] (name.toList.map fun c => [c])).filter fun w => !w.isEmpty)) := by
  have hlt : ∀ c ∈ name.toList, c.toNat < firstMark := fun c hc =>
    of_decide_eq_true (List.all_eq_true.mp h c hc)
  rw [apply, words, clusters_of_lt hlt]

end TypeDocs.Text
