import TypeDocs.Json.Basic
import TypeDocs.Json.Scan
import TypeDocs.Text.Blank

/-!
# The texts of numbers

However a number is laid out, its text begins with a digit, or with a sign and then a digit, and
there is no white space in it.
-/

namespace TypeDocs

namespace Decimal.Layout

open Json (startsDigit)

variable (l : Layout)

theorem startsDigit_append {cs : List Char} (h : startsDigit cs = true) (rest : List Char) :
    startsDigit (cs ++ rest) = true := by
  cases cs with
  | nil => simp [startsDigit] at h
  | cons c cs => exact h

theorem startsDigit_toDigits (n : Nat) : startsDigit (Nat.toDigits 10 n) = true := by
  cases h : Nat.toDigits 10 n with
  | nil => exact absurd h Nat.toDigits_ne_nil
  | cons c cs =>
    have hc : c ∈ Nat.toDigits 10 n := h ▸ List.mem_cons_self
    exact Nat.isDigit_of_mem_toDigits (by decide) (by decide) hc

theorem startsDigit_positionalText (d : Digits) : startsDigit (l.positionalText d) = true := by
  have hds := startsDigit_toDigits d.digits
  unfold positionalText
  simp only
  split
  · rw [List.append_assoc]
    exact startsDigit_append hds _
  split
  · next hpoint =>
    obtain ⟨n, hn⟩ : ∃ n, (((Nat.toDigits 10 d.digits).length : Int) + d.exponent).toNat = n + 1 :=
      ⟨_, (Nat.succ_pred_eq_of_pos (by omega)).symm⟩
    rw [List.append_assoc, hn]
    apply startsDigit_append
    cases h : Nat.toDigits 10 d.digits with
    | nil => exact absurd h Nat.toDigits_ne_nil
    | cons c cs =>
      rw [h] at hds
      exact hds
  · rfl

theorem startsDigit_scientificText (d : Digits) : startsDigit (l.scientificText d) = true := by
  have hds := startsDigit_toDigits d.digits
  unfold scientificText
  simp only [List.append_assoc]
  apply startsDigit_append
  split
  · next h =>
    rw [h] at hds
    exact hds
  · exact hds

section Blank

open Text

theorem isBlank_of_isDigit {c : Char} (h : c.isDigit = true) : isBlank c = false := by
  rw [Char.isDigit_iff_toNat] at h
  have hzero : '0'.toNat = 48 := rfl
  have hnine : '9'.toNat = 57 := rfl
  simp [isBlank]
  omega

theorem isBlank_of_mem_toDigits {n : Nat} {c : Char} (h : c ∈ Nat.toDigits 10 n) :
    isBlank c = false :=
  isBlank_of_isDigit (Nat.isDigit_of_mem_toDigits (by decide) (by decide) h)

theorem isBlank_of_mem_zeros {n : Nat} {c : Char} (h : c ∈ zeros n) : isBlank c = false := by
  rw [List.eq_of_mem_replicate h]
  decide

theorem isBlank_of_mem_whole {c : Char} (h : c ∈ l.whole) : isBlank c = false := by
  unfold whole at h
  split at h
  · simp only [List.mem_cons, List.not_mem_nil, or_false] at h
    rcases h with rfl | rfl <;> decide
  · simp at h

theorem isBlank_of_mem_positionalText {d : Digits} {c : Char} (h : c ∈ l.positionalText d) :
    isBlank c = false := by
  unfold positionalText at h
  simp only at h
  split at h
  · simp only [List.mem_append] at h
    rcases h with (h | h) | h
    · exact isBlank_of_mem_toDigits h
    · exact isBlank_of_mem_zeros h
    · exact l.isBlank_of_mem_whole h
  split at h
  · simp only [List.mem_append, List.mem_singleton] at h
    rcases h with (h | rfl) | h
    · exact isBlank_of_mem_toDigits (List.mem_of_mem_take h)
    · decide
    · exact isBlank_of_mem_toDigits (List.mem_of_mem_drop h)
  · simp only [List.mem_append, List.mem_cons, List.not_mem_nil, or_false] at h
    rcases h with ((rfl | rfl) | h) | h
    · decide
    · decide
    · exact isBlank_of_mem_zeros h
    · exact isBlank_of_mem_toDigits h

theorem isBlank_of_mem_scientificText {d : Digits} {c : Char} (h : c ∈ l.scientificText d) :
    isBlank c = false := by
  unfold scientificText at h
  simp only [List.mem_append] at h
  rcases h with ((h | h) | h) | h
  · split at h
    · next first second rest hds =>
      have hmem (b : Char) (hb : b ∈ first :: second :: rest) : isBlank b = false :=
        isBlank_of_mem_toDigits (hds ▸ hb)
      simp only [List.mem_cons] at h hmem
      rcases h with rfl | rfl | h
      · exact hmem c (.inl rfl)
      · decide
      · exact hmem c (.inr h)
    · exact isBlank_of_mem_toDigits h
  · rw [List.mem_singleton] at h
    rw [h]
    decide
  · split at h
    · rw [List.mem_singleton] at h
      rw [h]
      decide
    split at h
    · rw [List.mem_singleton] at h
      rw [h]
      decide
    · simp at h
  · exact isBlank_of_mem_toDigits h

/-- There is no white space in the text of a number. -/
theorem isBlank_of_mem_text {p : Precision} {x : Binary} {c : Char}
    (h : c ∈ (l.text p x).toList) : isBlank c = false := by
  have hword (s : String) (hs : (s.toList.all fun c => !isBlank c) = true) (hc : c ∈ s.toList) :
      isBlank c = false := by
    simpa using List.all_eq_true.mp hs c hc
  cases x with
  | notANumber => exact hword "NaN" (by decide) h
  | infinite negative =>
    cases negative
    · exact hword "inf" (by decide) h
    · exact hword "-inf" (by decide) h
  | finite negative m e =>
    have hbody : ∃ body : List Char, (∀ b ∈ body, isBlank b = false) ∧
        l.text p (.finite negative m e) = .ofList (if negative then '-' :: body else body) := by
      refine ⟨_, fun b hb => ?_, rfl⟩
      split at hb
      · rcases List.mem_cons.mp hb with rfl | hb
        · decide
        · exact l.isBlank_of_mem_whole hb
      split at hb
      · dsimp only at hb
        split at hb
        · exact l.isBlank_of_mem_positionalText hb
        · exact l.isBlank_of_mem_scientificText hb
      · exact l.isBlank_of_mem_positionalText hb
    obtain ⟨body, hmem, htext⟩ := hbody
    rw [htext, String.toList_ofList] at h
    cases negative with
    | false => exact hmem c h
    | true =>
      rcases List.mem_cons.mp h with rfl | h
      · decide
      · exact hmem c h

end Blank

/-- What stands in the text of a finite number, behind a sign if it is negative. -/
theorem text_finite (p : Precision) (negative : Bool) (m : Nat) (e : Int) :
    ∃ body, startsDigit body = true ∧
      l.text p (.finite negative m e) = .ofList (if negative then '-' :: body else body) := by
  refine ⟨_, ?_, rfl⟩
  split
  · rfl
  split
  · dsimp only
    split
    · exact l.startsDigit_positionalText _
    · exact l.startsDigit_scientificText _
  · exact l.startsDigit_positionalText _

end Decimal.Layout

/-- A number that has a text of its own. -/
def Number.Finite : Number → Prop
  | .whole _ => True
  | .float x => x.isFinite = true

instance : DecidablePred Number.Finite
  | .whole _ => inferInstanceAs (Decidable True)
  | .float x => inferInstanceAs (Decidable (x.isFinite = true))

/-- The text of a finite number has a digit behind its sign. -/
theorem Number.toText_of_finite {n : Number} (h : n.Finite) :
    ∃ (negative : Bool) (body : List Char), Json.startsDigit body = true ∧
      n.toText = .ofList (if negative then '-' :: body else body) := by
  cases n with
  | whole n =>
    refine ⟨decide (n < 0), Nat.toDigits 10 n.natAbs, Decimal.Layout.startsDigit_toDigits _, ?_⟩
    cases n with
    | ofNat n => rfl
    | negSucc n =>
      apply String.toList_inj.mp
      simp [toText, Int.repr]
  | float x =>
    cases x with
    | finite negative m e =>
      obtain ⟨body, hbody, htext⟩ := jsonLayout.text_finite Decimal.double negative m e
      exact ⟨negative, body, hbody, htext⟩
    | infinite negative => cases h
    | notANumber => cases h

/-- The text of a number is the word for null or has a digit behind its sign. -/
theorem Number.toText_eq (n : Number) :
    n.toText = "null" ∨ ∃ (negative : Bool) (body : List Char),
      Json.startsDigit body = true ∧
        n.toText = .ofList (if negative then '-' :: body else body) := by
  cases n with
  | whole n => exact .inr (toText_of_finite trivial)
  | float x =>
    by_cases hx : x.isFinite = true
    · exact .inr (toText_of_finite hx)
    · exact .inl (if_neg hx)

theorem isBlank_of_mem_toString {n : Int} {c : Char} (h : c ∈ (toString n).toList) :
    Text.isBlank c = false := by
  cases n with
  | ofNat n =>
    have hdigits : c ∈ Nat.toDigits 10 n := by simpa [Int.repr] using h
    exact Decimal.Layout.isBlank_of_mem_toDigits hdigits
  | negSucc n =>
    have hdigits : c = '-' ∨ c ∈ Nat.toDigits 10 (n + 1) := by simpa [Int.repr] using h
    rcases hdigits with rfl | hdigits
    · decide
    · exact Decimal.Layout.isBlank_of_mem_toDigits hdigits

theorem Number.isBlank_of_mem_textIn {l : Decimal.Layout} {n : Number} {c : Char}
    (h : c ∈ (n.textIn l).toList) : Text.isBlank c = false := by
  cases n with
  | whole n => exact isBlank_of_mem_toString h
  | float x => exact l.isBlank_of_mem_text h

theorem Number.isBlank_of_mem_toText {n : Number} {c : Char} (h : c ∈ n.toText.toList) :
    Text.isBlank c = false := by
  cases n with
  | whole n => exact isBlank_of_mem_toString h
  | float x =>
    rw [toText] at h
    split at h
    · exact jsonLayout.isBlank_of_mem_text h
    · have hword : ("null".toList.all fun c => !Text.isBlank c) = true := by decide
      simpa using List.all_eq_true.mp hword c h

/-- The text of a number is not a sign alone. -/
theorem Number.toText_ne_hyphen (n : Number) : n.toText ≠ "-" := by
  rcases n.toText_eq with h | ⟨negative, body, hbody, h⟩
  · rw [h]
    decide
  · intro he
    have hl : (if negative then '-' :: body else body) = ['-'] := by
      simpa using congrArg String.toList (h.symm.trans he)
    cases negative with
    | true =>
      obtain rfl : body = [] := by simpa using hl
      simp [Json.startsDigit] at hbody
    | false =>
      obtain rfl : body = ['-'] := by simpa using hl
      simp [Json.startsDigit] at hbody

end TypeDocs
