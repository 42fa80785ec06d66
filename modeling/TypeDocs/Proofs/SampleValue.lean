import TypeDocs.Proofs.Decimal.Text
import TypeDocs.Proofs.Text.Lines
import TypeDocs.SampleValue

/-!
# How declared values are shown

No value that is declared in JSON shows as the marker for a missing one, and none with white space
at its end.
-/

namespace TypeDocs

theorem Json.compact_ne_missing (j : Json) : j.compact ≠ Text.missing := by
  have hfirst {s t : String} (c : Char) (hc : c ≠ '-') (hs : s.toList = [c]) :
      s ++ t ≠ Text.missing := by
    intro h
    have hl := congrArg String.toList h
    rw [String.toList_append, hs] at hl
    exact hc (List.cons.inj hl).1
  cases j with
  | null => decide
  | flag b => cases b <;> decide
  | number n => exact n.toText_ne_hyphen
  | text s =>
    intro h
    have hl := congrArg String.toList h
    simp [compact, literal, Text.missing] at hl
  | array items =>
    rw [compact, String.append_assoc]
    exact hfirst '[' (by decide) rfl
  | object entries =>
    rw [compact, String.append_assoc]
    exact hfirst '\x7b' (by decide) rfl

theorem SampleValue.render_ofJson_ne_missing (j : Json) :
    (SampleValue.ofJson j).render ≠ Text.missing := by
  have hother (i : Json) : (SampleValue.other i.compact).render ≠ Text.missing := by
    rw [render]
    split
    · decide
    · exact i.compact_ne_missing
  cases j with
  | null => decide
  | flag b => cases b <;> decide
  | number n => exact hother (.number n)
  | text s =>
    intro h
    have hl := congrArg String.toList h
    simp [ofJson, render, Text.missing] at hl
  | array items => exact hother (.array items)
  | object entries => exact hother (.object entries)

open Text in
theorem SampleValue.endsSolid_render_ofJson (j : Json) :
    EndsSolid (SampleValue.ofJson j).render.toList := by
  have hnull : EndsSolid "null".toList := ⟨'l', by decide⟩
  have hother {s : String} (h : isBlankText s = false → EndsSolid s.toList) :
      EndsSolid (SampleValue.other s).render.toList := by
    rw [render]
    split
    · exact hnull
    · next hs => exact h (by simpa using hs)
  have hclosed {c : Char} (hc : isBlank c = false) (s : String) :
      EndsSolid (s ++ String.ofList [c]).toList := by
    rw [String.toList_append, String.toList_ofList]
    exact EndsSolid.append ⟨c, rfl, hc⟩ _
  cases j with
  | null => exact hnull
  | flag b => cases b <;> exact ⟨'e', by decide⟩
  | number n =>
    refine hother fun hblank => ?_
    have hne : n.toText.toList ≠ [] := by
      intro hnil
      simp [isBlankText, Json.compact, hnil] at hblank
    exact ⟨_, List.getLast?_eq_some_getLast hne, n.isBlank_of_mem_toText (List.getLast_mem hne)⟩
  | text s => exact hclosed (c := '"') (by decide) ("\"" ++ s)
  | array items => exact hother fun _ => hclosed (c := ']') (by decide) _
  | object entries => exact hother fun _ => hclosed (c := '\x7d') (by decide) _

end TypeDocs
