import TypeDocs.Json.Reader
import TypeDocs.Proofs.Decimal.Range
import TypeDocs.Proofs.Outcome
import TypeDocs.Proofs.Outline.Finite

/-!
# Numbers in JSON texts are finite

A number that is too great for a floating one is a fault, so every number that is read is finite.
-/

namespace TypeDocs.Json

open Decimal (Binary double)

section Numbers

variable {x y : Binary} {significand : Nat} {exponent : Int} {n : Number} {negative : Bool}
  {cs rest : List Char}

theorem absorb_lt (h : significand < UInt64.size) (cs : List Char) :
    (absorb significand cs).1 < UInt64.size := by
  induction cs generalizing significand with
  | nil => exact h
  | cons c cs ih =>
    rw [absorb]
    split
    · next hnext => exact ih hnext
    · exact h

/-- The powers of ten that numbers are scaled by. -/
theorem power_atLeast :
    ∀ i < 309, 0 < i → (Binary.ofNat double (Nat.pow 10 i)).AtLeast 1 := by
  decide +kernel

/-- A number that has not been scaled up stays finite when it is scaled. -/
theorem scaled_finite (hx : x.Below 65) (h : scaled x exponent = .ok y) : y.isFinite = true := by
  -- a quotient by a power of ten is as small as the dividend was, however it is rounded
  have hdiv {x z : Binary} (hx : x.Below 65) (hz : z.AtLeast 1) : (x.div double z).Below 65 :=
    Binary.Below.div (k := 64) hx hz (by decide) (by decide) (by decide)
  fun_induction scaled x exponent with
  | case1 | case5 => exact Except.ok.inj h ▸ hx.isFinite
  | case2 x exponent power _ _ _ z hz => exact Except.ok.inj h ▸ hz
  | case3 | case4 => cases h
  | case6 x exponent power _ _ _ ih =>
    have hpower : ∀ i < 309, 0 < i → (power i).AtLeast 1 := power_atLeast
    clear_value power
    exact ih (hdiv hx (hpower 308 (by decide) (by decide))) h
  | case7 x exponent power hneg _ hsmall =>
    have hpower : (power (-exponent).toNat).AtLeast 1 :=
      power_atLeast _ (by omega) (by omega)
    exact Except.ok.inj h ▸ (hdiv hx hpower).isFinite

theorem floating_finite (hs : significand < UInt64.size)
    (h : floating negative significand exponent = .ok n) : n.Finite := by
  have hbelow : (Binary.ofNat double significand).Below 65 :=
    Binary.below_ofNat (k := 64) (by decide) hs (by decide) (by decide)
  unfold floating at h
  cases hx : scaled (Binary.ofNat double significand) exponent with
  | error e =>
    rw [hx] at h
    cases h
  | ok x =>
    have hfinite := scaled_finite hbelow hx
    rw [hx] at h
    cases h
    cases negative with
    | false => exact hfinite
    | true =>
      cases x with
      | finite => rfl
      | infinite => cases hfinite
      | notANumber => cases hfinite

/-- What follows a floating number is not looked at. -/
theorem floating_then_finite (hs : significand < UInt64.size)
    (h : (do return (← floating negative significand exponent, cs)) = Except.ok (n, rest)) :
    n.Finite := by
  cases hx : floating negative significand exponent with
  | error e =>
    rw [hx] at h
    cases h
  | ok x =>
    rw [hx] at h
    cases h
    exact floating_finite hs hx

theorem readExponent_finite (hs : significand < UInt64.size)
    (h : readExponent negative significand exponent cs = .ok (n, rest)) : n.Finite := by
  unfold readExponent at h
  split at h
  split at h
  · cases h
  split at h
  · cases h
  dsimp only at h
  split at h
  · exact floating_then_finite hs h
  split at h
  · cases h
  · exact floating_then_finite (by decide) h

theorem readFraction_finite (hs : significand < UInt64.size)
    (h : readFraction negative significand exponent cs = .ok (n, rest)) : n.Finite := by
  unfold readFraction at h
  split at h
  · next cs =>
    dsimp only at h
    split at h
    · cases h
    have hdigits := absorb_lt hs (cs.takeWhile Char.isDigit)
    split at h
    · exact readExponent_finite hdigits h
    · exact readExponent_finite hdigits h
    · exact floating_then_finite hdigits h
  · exact readExponent_finite hs h
  · exact readExponent_finite hs h
  · exact floating_then_finite hs h

theorem readNumber_finite (h : readNumber negative cs = .ok (n, rest)) : n.Finite := by
  unfold readNumber at h
  split at h
  · cases h
  split at h
  · cases h
  split at h
  · cases h
  · next c after _ _ =>
    have hdigits : (absorb 0 ((c :: after).takeWhile Char.isDigit)).1 < UInt64.size :=
      absorb_lt (by decide) _
    dsimp only at h
    split at h
    · exact readFraction_finite hdigits h
    split at h
    · cases h
      trivial
    split at h
    · exact floating_then_finite hdigits h
    · cases h
      trivial

end Numbers

section Outlines

open Outline (Finite)

theorem leafReading_finite {r : Except Malformed (Found × Json × List Char)}
    (h : ∀ found j rest, r = .ok (found, j, rest) → j.Finite) : (leafReading r).1.Finite := by
  unfold leafReading
  split
  · exact .leaf fun j hj => by cases hj
  · next found j rest => exact .leaf fun i hi => Except.ok.inj hi ▸ h found j rest rfl

theorem wordReading_finite {w cs : List Char} {found : Found} {j : Json} (hj : j.Finite) :
    (wordReading w found j cs).1.Finite := by
  refine leafReading_finite fun found' i rest h => ?_
  obtain ⟨cs', -, h⟩ := exists_of_bind_eq_ok h
  cases h
  exact hj

theorem numberReading_finite (negative : Bool) (cs : List Char) :
    (numberReading negative cs).1.Finite := by
  refine leafReading_finite fun found j rest h => ?_
  obtain ⟨⟨n, rest⟩, hn, h⟩ := exists_of_bind_eq_ok h
  cases h
  exact readNumber_finite hn

theorem textReading_finite (cs : List Char) : (textReading cs).1.Finite := by
  unfold textReading
  split
  · exact .fault _
  · exact .leaf fun j hj => Except.ok.inj hj ▸ trivial

theorem oddKey_finite (key : Outline) : ∀ e ∈ (oddKey key).1, e.2.Finite := by
  unfold oddKey
  dsimp only
  split
  · intro e he
    rw [List.mem_singleton.mp he]
    exact .fault _
  · exact List.forall_mem_nil _

mutual

theorem readValue_finite (fuel depth : Nat) (cs : List Char) :
    (readValue fuel depth cs).1.Finite := by
  cases fuel with
  | zero => exact .fault _
  | succ fuel =>
    unfold readValue
    split
    · exact .fault _
    · exact wordReading_finite trivial
    · exact wordReading_finite trivial
    · exact wordReading_finite trivial
    · exact numberReading_finite true _
    · exact textReading_finite _
    · split
      · exact .list (List.forall_mem_nil _)
      · exact .list (readItems_finite fuel (depth - 1) true _)
    · split
      · exact .table (List.forall_mem_nil _)
      · exact .table (readEntries_finite fuel (depth - 1) true _)
    · split
      · exact numberReading_finite false _
      · exact .fault _

theorem readItems_finite (fuel depth : Nat) (first : Bool) (cs : List Char) :
    ∀ o ∈ (readItems fuel depth first cs).1, o.Finite := by
  cases fuel with
  | zero => exact List.forall_mem_nil _
  | succ fuel =>
    unfold readItems
    extract_lets item
    have hitem (cs : List Char) : ∀ o ∈ (item cs).1, o.Finite := by
      have hvalue := readValue_finite fuel depth cs
      unfold item
      split
      · next o ho =>
        rw [ho] at hvalue
        exact List.forall_mem_singleton.mpr hvalue
      · next o rest ho =>
        rw [ho] at hvalue
        exact List.forall_mem_cons.mpr ⟨hvalue, readItems_finite fuel depth false rest⟩
    split
    · exact List.forall_mem_nil _
    · exact List.forall_mem_nil _
    · split
      · exact hitem _
      split
      · exact List.forall_mem_nil _
      · exact List.forall_mem_nil _
      · exact hitem _
    · split
      · exact hitem _
      · exact List.forall_mem_nil _

theorem readEntries_finite (fuel depth : Nat) (first : Bool) (cs : List Char) :
    ∀ e ∈ (readEntries fuel depth first cs).1, e.2.Finite := by
  cases fuel with
  | zero => exact List.forall_mem_nil _
  | succ fuel =>
    unfold readEntries
    extract_lets entry
    have hentry (cs : List Char) : ∀ e ∈ (entry cs).1, e.2.Finite := by
      unfold entry
      split
      · exact List.forall_mem_nil _
      split
      · next cs _ =>
        have hvalue := readValue_finite fuel depth cs
        split
        next o rest ho =>
        rw [ho] at hvalue
        dsimp only
        split
        · exact List.forall_mem_singleton.mpr hvalue
        · exact List.forall_mem_cons.mpr ⟨hvalue, readEntries_finite fuel depth false _⟩
      · exact List.forall_mem_singleton.mpr (.fault _)
    split
    · exact List.forall_mem_nil _
    · exact List.forall_mem_nil _
    · split
      · exact hentry _
      · exact List.forall_mem_nil _
    · split
      · exact List.forall_mem_nil _
      split
      · exact List.forall_mem_nil _
      · exact hentry _
      · exact List.forall_mem_nil _
      · exact List.forall_mem_nil _
    · split
      · exact oddKey_finite _
      · exact List.forall_mem_nil _

end

theorem outline_finite (s : String) : (outline s).1.Finite :=
  readValue_finite (2 * s.toList.length + 2) depthLimit s.toList

end Outlines

end TypeDocs.Json
