import TypeDocs.Text.LetterCase

/-!
# Raising and lowering

Lowering the letters `A` to `Z` makes no difference to a text that is raised or lowered afterwards,
and below 128 what was raised or lowered can still be raised. This is decided letter by letter.
-/

namespace TypeDocs.Text

/-- Raising and lowering one letter after the other comes to the last of the two. -/
theorem case_of_ascii {c : Char} (h : c.toNat < 128) :
    upperChar c.toLower = upperChar c ∧ lowerChar c.toLower = lowerChar c ∧
      upper (upperChar c) = [c.toUpper] ∧ upper (lowerChar c) = [c.toUpper] := by
  have hall : ∀ n < 128, upperChar (Char.ofNat n).toLower = upperChar (Char.ofNat n) ∧
      lowerChar (Char.ofNat n).toLower = lowerChar (Char.ofNat n) ∧
      upper (upperChar (Char.ofNat n)) = [(Char.ofNat n).toUpper] ∧
      upper (lowerChar (Char.ofNat n)) = [(Char.ofNat n).toUpper] := by decide +kernel
  simpa using hall c.toNat h

theorem toLower_of_not_ascii {c : Char} (h : ¬ c.toNat < 128) : c.toLower = c := by
  refine dif_neg fun hletter => h ?_
  have hlast : c.toNat ≤ 'Z'.toNat := hletter.2
  have hz : 'Z'.toNat = 90 := rfl
  omega

theorem upperChar_toLower (c : Char) : upperChar c.toLower = upperChar c := by
  by_cases h : c.toNat < 128
  · exact (case_of_ascii h).1
  · rw [toLower_of_not_ascii h]

theorem lowerChar_toLower (c : Char) : lowerChar c.toLower = lowerChar c := by
  by_cases h : c.toNat < 128
  · exact (case_of_ascii h).2.1
  · rw [toLower_of_not_ascii h]

theorem upper_flatMap_lowerChar {cs : List Char} (h : ∀ c ∈ cs, c.toNat < 128) :
    upper (cs.flatMap lowerChar) = cs.map Char.toUpper := by
  induction cs with
  | nil => rfl
  | cons c cs ih =>
    obtain ⟨hc, hcs⟩ := List.forall_mem_cons.mp h
    rw [List.flatMap_cons, upper_append, (case_of_ascii hc).2.2.2, ih hcs]
    rfl

/-- The text with the letters `A` to `Z` lowered. -/
def lowered (s : String) : String := .ofList (s.toList.map Char.toLower)

end TypeDocs.Text
