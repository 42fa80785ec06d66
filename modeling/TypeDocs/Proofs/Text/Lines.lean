import Mathlib.Data.List.DropRight
import Mathlib.Data.List.SplitBy
import TypeDocs.Text.Blank

/-!
# Lines

`cutAfter` cuts a list behind each element with a property, and so a text behind each of its line
breaks. Nothing is lost, a piece begins where the list begins or behind such an element, and every
piece but the last ends with one. Pieces that are joined come apart again just when the separator
is in none of them, and a text that ends with no white space is left alone by trimming.
-/

namespace TypeDocs.Text

section Cut

variable {α : Type} {p : α → Bool} {xs ys : List α}

/-- The list cut behind each element with the property. -/
def cutAfter (p : α → Bool) (xs : List α) : List (List α) := xs.splitBy fun a _ => !p a

theorem flatten_cutAfter (p : α → Bool) (xs : List α) : (cutAfter p xs).flatten = xs :=
  List.flatten_splitBy _ xs

theorem ne_nil_of_mem_cutAfter {l : List α} (h : l ∈ cutAfter p xs) : l ≠ [] :=
  List.ne_nil_of_mem_splitBy h

theorem cutAfter_append (h : ∀ a ∈ xs.getLast?, p a = true) :
    cutAfter p (xs ++ ys) = cutAfter p xs ++ cutAfter p ys := by
  apply List.splitBy_append
  intro a ha b _
  rw [h a ha, Bool.not_true]

/-- Nothing is cut where the property comes at the end at most. -/
theorem cutAfter_concat (h : ∀ x ∈ xs, p x = false) (a : α) :
    cutAfter p (xs ++ [a]) = [xs ++ [a]] := by
  apply List.splitBy_of_isChain (by simp)
  induction xs with
  | nil => simp
  | cons x xs ih =>
    rw [List.cons_append, List.isChain_cons]
    refine ⟨fun _ _ => ?_, ih fun y hy => h y (List.mem_cons_of_mem x hy)⟩
    rw [h x List.mem_cons_self, Bool.not_false]

theorem isChain_cutAfter (p : α → Bool) (xs : List α) :
    (cutAfter p xs).IsChain fun l _ => ∃ a, l.getLast? = some a ∧ p a = true := by
  refine (List.isChain_getLast_head_splitBy _ xs).imp fun l m h => ?_
  obtain ⟨hl, hm, hp⟩ := h
  exact ⟨l.getLast hl, List.getLast?_eq_some_getLast hl, by simpa using hp⟩

/-- A piece that another follows ends with the property. -/
theorem getLast?_of_mem_dropLast_cutAfter {l : List α} (h : l ∈ (cutAfter p xs).dropLast) :
    ∃ a, l.getLast? = some a ∧ p a = true := by
  obtain ⟨before, after, hsplit⟩ := List.append_of_mem h
  have hne : cutAfter p xs ≠ [] := by
    intro hnil
    simp [hnil] at h
  have hall : cutAfter p xs = before ++ l :: (after ++ [(cutAfter p xs).getLast hne]) := by
    conv_lhs => rw [← List.dropLast_append_getLast hne, hsplit]
    simp
  have hchain := isChain_cutAfter p xs
  rw [hall, List.isChain_append] at hchain
  obtain ⟨hlast, _⟩ := List.isChain_cons.mp hchain.2.1
  cases after with
  | nil => exact hlast _ rfl
  | cons m after => exact hlast m rfl

/-- A piece begins where the list begins or behind the property. -/
theorem exists_of_mem_cutAfter {l : List α} (h : l ∈ cutAfter p xs) :
    ∃ before after, xs = before ++ (l ++ after) ∧ ∀ a ∈ before.getLast?, p a = true := by
  obtain ⟨before, after, hsplit⟩ := List.append_of_mem h
  refine ⟨before.flatten, after.flatten, ?_, ?_⟩
  · rw [← flatten_cutAfter p xs, hsplit]
    simp
  · intro a ha
    rcases List.eq_nil_or_concat before with rfl | ⟨init, m, rfl⟩
    · simp at ha
    · have hchain := isChain_cutAfter p xs
      rw [hsplit, List.concat_eq_append, List.isChain_append] at hchain
      obtain ⟨b, hb, hpb⟩ := hchain.2.2 m (by simp) l (by simp)
      have hlast : (init.concat m).flatten.getLast? = some b := by
        rw [List.concat_eq_append, List.flatten_append, List.flatten_singleton,
          List.getLast?_append, hb, Option.some_or]
      rw [hlast, Option.mem_some_iff] at ha
      rwa [← ha]

theorem length_splitOnP (p : α → Bool) (xs : List α) :
    (xs.splitOnP p).length = xs.countP p + 1 := by
  induction xs with
  | nil => rfl
  | cons x xs ih =>
    rw [List.splitOnP_cons_eq_if_modifyHead, List.countP_cons]
    split <;> simp [ih]

/-- What another separator follows is not last. -/
theorem mem_dropLast_of_mem_splitOnP {ls : List α} (h : ls ∈ (xs.splitOnP p).dropLast) {x : α}
    (hx : x ∈ ls) : x ∈ xs.dropLast := by
  induction xs generalizing ls with
  | nil => simp at h
  | cons y ys ih =>
    rw [List.splitOnP_cons_eq_if_modifyHead] at h
    have hne := List.splitOnP_ne_nil p ys
    split at h
    · rw [List.dropLast_cons_of_ne_nil hne] at h
      rcases List.mem_cons.mp h with rfl | h
      · simp at hx
      · have hmem := ih h hx
        rw [List.dropLast_cons_of_ne_nil (by rintro rfl; simp at hmem)]
        exact List.mem_cons_of_mem y hmem
    · cases hpieces : ys.splitOnP p with
      | nil => exact absurd hpieces hne
      | cons first rest =>
        rw [hpieces, List.modifyHead_cons] at h
        cases rest with
        | nil => simp at h
        | cons second rest =>
          have hys : ys ≠ [] := by
            rintro rfl
            simp at hpieces
          rw [List.dropLast_cons_of_ne_nil hys]
          rw [List.dropLast_cons_of_ne_nil (by simp)] at h
          rcases List.mem_cons.mp h with rfl | h
          · rcases List.mem_cons.mp hx with rfl | hx
            · exact List.mem_cons_self
            · refine List.mem_cons_of_mem y (ih ?_ hx)
              rw [hpieces, List.dropLast_cons_of_ne_nil (by simp)]
              exact List.mem_cons_self
          · refine List.mem_cons_of_mem y (ih ?_ hx)
            rw [hpieces, List.dropLast_cons_of_ne_nil (by simp)]
            exact List.mem_cons_of_mem first h

end Cut

section Join

variable {α : Type} {ls : List (List α)}

theorem length_splitOn [BEq α] (a : α) (xs : List α) :
    (xs.splitOn a).length = xs.count a + 1 :=
  length_splitOnP _ xs

theorem count_intercalate [BEq α] (sep : List α) (a : α) (hne : ls ≠ []) :
    (sep.intercalate ls).count a + sep.count a =
      ls.length * sep.count a + ls.flatten.count a := by
  induction ls with
  | nil => exact absurd rfl hne
  | cons l ls ih =>
    cases ls with
    | nil => simp [Nat.add_comm]
    | cons m ls =>
      have hrest := ih (by simp)
      rw [List.intercalate_cons_cons, List.count_append, List.count_append, List.flatten_cons,
        List.count_append, List.length_cons, Nat.succ_mul]
      omega

theorem count_flatten_eq_zero_iff [BEq α] [LawfulBEq α] {a : α} :
    ls.flatten.count a = 0 ↔ ∀ l ∈ ls, a ∉ l := by
  rw [List.count_eq_zero, List.mem_flatten]
  simp

/-- There are as many pieces as were joined only if the separator is in none of them. -/
theorem not_mem_of_length_splitOn_intercalate [BEq α] [LawfulBEq α] {a : α} (hne : ls ≠ [])
    (h : (([a].intercalate ls).splitOn a).length = ls.length) : ∀ l ∈ ls, a ∉ l := by
  have hcount := count_intercalate [a] a hne
  rw [length_splitOn] at h
  rw [List.count_singleton_self] at hcount
  exact count_flatten_eq_zero_iff.mp (by omega)

theorem flatMap_concat_eq_intercalate (a : α) (hne : ls ≠ []) :
    ls.flatMap (· ++ [a]) = [a].intercalate ls ++ [a] := by
  induction ls with
  | nil => exact absurd rfl hne
  | cons l ls ih =>
    cases ls with
    | nil => simp
    | cons m ls =>
      rw [List.flatMap_cons, ih (by simp), List.intercalate_cons_cons]
      simp

theorem mem_intercalate {sep : List α} {a : α} (h : a ∈ sep.intercalate ls) :
    a ∈ sep ∨ ∃ l ∈ ls, a ∈ l := by
  induction ls with
  | nil => simp at h
  | cons l ls ih =>
    cases ls with
    | nil =>
      rw [List.intercalate_singleton] at h
      exact .inr ⟨l, List.mem_cons_self, h⟩
    | cons m ls =>
      rw [List.intercalate_cons_cons, List.mem_append, List.mem_append] at h
      obtain (hl | hsep) | hrest := h
      · exact .inr ⟨l, List.mem_cons_self, hl⟩
      · exact .inl hsep
      · exact (ih hrest).imp_right fun ⟨k, hk, hmem⟩ => ⟨k, List.mem_cons_of_mem l hk, hmem⟩

theorem intercalate_append (sep : List α) {ms : List (List α)} (hls : ls ≠ []) (hms : ms ≠ []) :
    sep.intercalate (ls ++ ms) = sep.intercalate ls ++ sep ++ sep.intercalate ms := by
  induction ls with
  | nil => exact absurd rfl hls
  | cons l ls ih =>
    cases ls with
    | nil =>
      cases ms with
      | nil => exact absurd rfl hms
      | cons m ms =>
        rw [List.singleton_append, List.intercalate_cons_cons, List.intercalate_singleton]
    | cons k ls =>
      rw [List.cons_append, List.cons_append, List.intercalate_cons_cons,
        List.intercalate_cons_cons, ← List.cons_append, ih (by simp)]
      simp only [List.append_assoc]

theorem length_intercalate (sep : List α) (ls : List (List α)) :
    (sep.intercalate ls).length =
      (ls.map List.length).foldr (· + ·) 0 + sep.length * (ls.length - 1) := by
  induction ls with
  | nil => rfl
  | cons l ls ih =>
    cases ls with
    | nil => simp
    | cons m ls =>
      simp only [List.intercalate_cons_cons, List.length_append, ih, List.map_cons,
        List.foldr_cons, List.length_cons, Nat.add_sub_cancel, Nat.mul_add_one]
      omega

theorem getLast?_intercalate (sep : List α) {l : List α} {a : α} (hlast : ls.getLast? = some l)
    (ha : l.getLast? = some a) : (sep.intercalate ls).getLast? = some a := by
  induction ls with
  | nil => simp at hlast
  | cons m ls ih =>
    cases ls with
    | nil =>
      obtain rfl : m = l := by simpa using hlast
      rwa [List.intercalate_singleton]
    | cons n ls =>
      rw [List.getLast?_cons_cons] at hlast
      rw [List.intercalate_cons_cons, List.getLast?_append, ih hlast, Option.some_or]

/-- Pieces that each end with the separator come apart again, with nothing behind the last. -/
theorem splitOn_flatMap_concat [BEq α] [LawfulBEq α] {a : α} (h : ∀ l ∈ ls, a ∉ l) :
    (ls.flatMap (· ++ [a])).splitOn a = ls ++ [[]] := by
  by_cases hne : ls = []
  · subst hne
    rfl
  · have hjoin := intercalate_append [a] hne (List.cons_ne_nil [] [])
    rw [List.intercalate_singleton, List.append_nil] at hjoin
    rw [flatMap_concat_eq_intercalate a hne, ← hjoin]
    refine List.splitOn_intercalate a (fun l hl => ?_) (by simp)
    rcases List.mem_append.mp hl with hl | hl
    · exact h l hl
    · rw [List.mem_singleton.mp hl]
      exact List.not_mem_nil

end Join

/-- The text ends, and not with white space. -/
def EndsSolid (cs : List Char) : Prop := ∃ c, cs.getLast? = some c ∧ isBlank c = false

theorem EndsSolid.append {ds : List Char} (h : EndsSolid ds) (cs : List Char) :
    EndsSolid (cs ++ ds) := by
  obtain ⟨c, hlast, hc⟩ := h
  exact ⟨c, by rw [List.getLast?_append, hlast, Option.some_or], hc⟩

theorem EndsSolid.intercalate {ls : List (List Char)} {l : List Char} (h : EndsSolid l)
    (sep : List Char) (hlast : ls.getLast? = some l) : EndsSolid (sep.intercalate ls) := by
  obtain ⟨c, hc, hsolid⟩ := h
  exact ⟨c, getLast?_intercalate sep hlast hc, hsolid⟩

/-- White space behind is all that trimming takes from a text that ends with none. -/
theorem trimEnd_append_of_isBlank {cs bs : List Char} (h : EndsSolid cs)
    (hbs : bs.all isBlank = true) : trimEnd (cs ++ bs) = cs := by
  obtain ⟨c, hlast, hc⟩ := h
  have hkept : cs.rdropWhile isBlank = cs := by
    rw [List.rdropWhile_eq_self_iff]
    intro hne hblank
    rw [List.getLast?_eq_some_getLast hne, Option.some.injEq] at hlast
    rw [hlast, hc] at hblank
    exact absurd hblank (by decide)
  rw [trimEnd, List.reverse_append, List.dropWhile_append_of_pos (by simpa using hbs)]
  exact hkept

theorem trimEnd_append_lineFeed {cs : List Char} (h : EndsSolid cs) :
    trimEnd (cs ++ ['\n']) = cs :=
  trimEnd_append_of_isBlank h (by decide)

/-- White space is all that trimming takes away. -/
theorem exists_trimEnd_append (cs : List Char) :
    ∃ cut, cut.all isBlank = true ∧ trimEnd cs ++ cut = cs :=
  ⟨cs.rtakeWhile isBlank, List.all_eq_true.mpr fun _ => List.mem_rtakeWhile_imp,
    List.rdropWhile_append_rtakeWhile⟩

/-- What a text begins with stays when white space is taken from its end. -/
theorem EndsSolid.isPrefix_of_append {ps cs bs : List Char} (h : EndsSolid ps)
    (hbs : bs.all isBlank = true) (hps : ps <+: cs ++ bs) : ps <+: cs := by
  rcases List.prefix_or_prefix_of_prefix hps (List.prefix_append cs bs) with hps' | ⟨more, hmore⟩
  · exact hps'
  · have hblank : ∀ c ∈ more, isBlank c = true := by
      rw [← hmore, List.prefix_append_right_inj] at hps
      exact fun c hc => List.all_eq_true.mp hbs c (hps.subset hc)
    obtain ⟨c, hlast, hc⟩ := h
    rw [← hmore, List.getLast?_append, Option.or_eq_some_iff] at hlast
    rcases hlast with hlast | ⟨hnil, -⟩
    · rw [hblank c (List.mem_of_getLast? hlast)] at hc
      cases hc
    · rw [List.getLast?_eq_none_iff] at hnil
      have hall : ps = cs := by rw [← hmore, hnil, List.append_nil]
      exact hall ▸ List.prefix_rfl

/-- The lines of a text, each with the line feed that ends it. -/
def lines (cs : List Char) : List (List Char) := cutAfter (· == '\n') cs

/-- Whether a line says just this, with a line feed or without. -/
def isLine (s : String) (l : List Char) : Bool := l == s.toList || l == s.toList ++ ['\n']

theorem lines_of_isLine {s : String} (hs : '\n' ∉ s.toList) (hne : s.toList ≠ [])
    {l : List Char} (hl : isLine s l = true) : lines l = [l] := by
  have hclean {cs : List Char} (hcs : cs ⊆ s.toList) : ∀ c ∈ cs, (c == '\n') = false := by
    intro c hc
    rw [beq_eq_false_iff_ne]
    rintro rfl
    exact hs (hcs hc)
  simp only [isLine, Bool.or_eq_true, beq_iff_eq] at hl
  rcases hl with rfl | rfl
  · rw [← List.dropLast_append_getLast hne]
    exact cutAfter_concat (hclean (List.dropLast_subset _)) _
  · exact cutAfter_concat (hclean (List.Subset.refl _)) _

/-- The text without a line feed at its end. -/
def chomp (cs : List Char) : List Char := if cs.getLast? = some '\n' then cs.dropLast else cs

end TypeDocs.Text
