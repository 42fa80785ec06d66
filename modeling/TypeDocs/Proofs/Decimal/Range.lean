import Mathlib.Algebra.Order.Field.Power
import Mathlib.Algebra.Order.Field.Rat
import Mathlib.Data.Nat.Cast.Order.Field
import Mathlib.Tactic.Linarith
import Mathlib.Tactic.NormNum
import Mathlib.Tactic.Positivity
import TypeDocs.Decimal.Binary

/-!
# The range of binary numbers

Rounding a ratio gives a finite number when the ratio is well below the greatest one, and rounding
does not lift it past the next power of two.
-/

namespace TypeDocs.Decimal.Binary

/-- A finite number less than a power of two, its sign aside. -/
def Below (k : ℕ) : Binary → Prop
  | .finite _ m e => (m : ℚ) * 2 ^ e < 2 ^ k
  | _ => False

/-- A finite number not less than a power of two, its sign aside. -/
def AtLeast (j : ℕ) : Binary → Prop
  | .finite _ m e => (ratio m e).2 * 2 ^ j ≤ (ratio m e).1
  | _ => False

instance (j : ℕ) : DecidablePred (AtLeast j)
  | .finite _ m e => inferInstanceAs (Decidable ((ratio m e).2 * 2 ^ j ≤ (ratio m e).1))
  | .infinite _ | .notANumber => inferInstanceAs (Decidable False)

variable {k : ℕ} {x y : Binary}

theorem Below.isFinite (h : x.Below k) : x.isFinite = true := by
  cases x with
  | finite negative m e => rfl
  | infinite negative => exact h.elim
  | notANumber => exact h.elim

theorem nearestWhole_le (num den : ℕ) : nearestWhole num den ≤ num / den + 1 := by
  unfold nearestWhole
  dsimp only
  split
  · omega
  split
  · omega
  · have hparity : num / den % 2 < 2 := Nat.mod_lt _ (by decide)
    omega

section Ratio

theorem ratio_den_pos (m : ℕ) (e : ℤ) : 0 < (ratio m e).2 := by
  unfold ratio
  split
  · rw [Nat.one_shiftLeft]
    exact Nat.two_pow_pos _
  · exact Nat.one_pos

theorem ratio_num (m : ℕ) (e : ℤ) : ((ratio m e).1 : ℚ) = m * 2 ^ e * (ratio m e).2 := by
  unfold ratio
  split
  · have he : (2 : ℚ) ^ e * 2 ^ (-e).toNat = 1 := by
      rw [← zpow_natCast, ← zpow_add₀ (by norm_num), show e + ((-e).toNat : ℤ) = 0 by omega,
        zpow_zero]
    rw [Nat.one_shiftLeft, Nat.cast_pow, Nat.cast_ofNat, mul_assoc, he, mul_one]
  · have he : (2 : ℚ) ^ e = 2 ^ e.toNat := by
      rw [← zpow_natCast]
      congr 1
      omega
    rw [Nat.shiftLeft_eq, he]
    push_cast
    rw [mul_one]

end Ratio

section Rounding

variable {p : Precision} {num den : ℕ} {e : ℤ}

/-- A ratio in units of a power of two. -/
def inUnits (num den : ℕ) (e : ℤ) : ℕ × ℕ :=
  if e < 0 then (num <<< (-e).toNat, den) else (num, den <<< e.toNat)

/-- A significand that has just grown one digit too many is halved. -/
def normalized (p : Precision) (m : ℕ) (e : ℤ) : ℕ × ℤ :=
  if m == 1 <<< p.bits then (1 <<< (p.bits - 1), e + 1) else (m, e)

/-- The exponent at which the significand of a ratio has its digits, or one less than it. -/
def guess (p : Precision) (num den : ℕ) : ℤ :=
  max ((num.log2 : ℤ) - den.log2 - p.bits) p.least

theorem ofRatio_eq (p : Precision) (den : ℕ) (negative : Bool) (hnum : num ≠ 0) :
    ∃ e, e ≤ guess p num den + 1 ∧
      let r := normalized p (nearestWhole (inUnits num den e).1 (inUnits num den e).2) e
      ofRatio p negative num den =
        if r.2 > p.most then .infinite negative else .finite negative r.1 r.2 := by
  refine ⟨if (inUnits num den (guess p num den)).1 / (inUnits num den (guess p num den)).2 <
    1 <<< p.bits then guess p num den else guess p num den + 1, ?_, ?_⟩
  · split <;> omega
  · rw [ofRatio, beq_false_of_ne hnum]
    rfl

theorem inUnits_value (num : ℕ) (e : ℤ) (hden : den ≠ 0) :
    (inUnits num den e).2 ≠ 0 ∧
      ((inUnits num den e).1 : ℚ) / (inUnits num den e).2 * 2 ^ e = num / den := by
  unfold inUnits
  split
  · refine ⟨hden, ?_⟩
    have he : (2 : ℚ) ^ (-e).toNat * 2 ^ e = 1 := by
      rw [← zpow_natCast, ← zpow_add₀ (by norm_num), show ((-e).toNat : ℤ) + e = 0 by omega,
        zpow_zero]
    rw [Nat.shiftLeft_eq, Nat.cast_mul, Nat.cast_pow, Nat.cast_ofNat, div_mul_eq_mul_div,
      mul_assoc, he, mul_one]
  · have he : (2 : ℚ) ^ e = 2 ^ e.toNat := by
      rw [← zpow_natCast]
      congr 1
      omega
    refine ⟨by simp [Nat.shiftLeft_eq, hden], ?_⟩
    rw [Nat.shiftLeft_eq, Nat.cast_mul, Nat.cast_pow, Nat.cast_ofNat, he, ← div_div,
      div_mul_cancel₀ _ (by positivity)]

/-- Rounding to a whole number of units adds one unit at most. -/
theorem nearestWhole_inUnits_le (hden : den ≠ 0) :
    (nearestWhole (inUnits num den e).1 (inUnits num den e).2 : ℚ) * 2 ^ e ≤
      num / den + 2 ^ e := by
  obtain ⟨-, hvalue⟩ := inUnits_value num e hden
  have hpos : (0 : ℚ) < 2 ^ e := by positivity
  calc (nearestWhole (inUnits num den e).1 (inUnits num den e).2 : ℚ) * 2 ^ e
      ≤ (((inUnits num den e).1 / (inUnits num den e).2 : ℕ) + 1) * 2 ^ e := by
        gcongr
        exact_mod_cast nearestWhole_le _ _
    _ ≤ ((inUnits num den e).1 / (inUnits num den e).2 + 1) * 2 ^ e := by
        gcongr
        exact Nat.cast_div_le
    _ = num / den + 2 ^ e := by rw [add_mul, one_mul, hvalue]

theorem normalized_value (hbits : 1 ≤ p.bits) (m : ℕ) :
    ((normalized p m e).1 : ℚ) * 2 ^ (normalized p m e).2 = m * 2 ^ e ∧
      (normalized p m e).2 ≤ e + 1 := by
  unfold normalized
  split
  · next hm =>
    refine ⟨?_, le_refl _⟩
    rw [eq_of_beq hm, Nat.one_shiftLeft, Nat.one_shiftLeft, zpow_add_one₀ (by norm_num)]
    push_cast
    rw [mul_comm ((2 : ℚ) ^ e), ← mul_assoc, ← pow_succ, Nat.sub_add_cancel hbits]
  · exact ⟨rfl, by omega⟩

theorem guess_le (h : num < den * 2 ^ k) (hleast : p.least + p.bits ≤ k) :
    guess p num den ≤ k - p.bits := by
  have hlog : num.log2 ≤ den.log2 + k := by
    rcases Nat.eq_zero_or_pos num with rfl | hnum
    · simp
    · rw [← Nat.lt_succ_iff, Nat.log2_lt hnum.ne']
      calc num < den * 2 ^ k := h
        _ ≤ 2 ^ (den.log2 + 1) * 2 ^ k := Nat.mul_le_mul_right _ Nat.lt_log2_self.le
        _ = 2 ^ (den.log2 + k + 1) := by rw [← pow_add, Nat.add_right_comm]
  unfold guess
  omega

/-- A ratio below a power of two in range is rounded to a finite number below the next power. -/
theorem below_ofRatio (negative : Bool) (hbits : 1 ≤ p.bits) (hden : den ≠ 0)
    (h : num < den * 2 ^ k) (hleast : p.least + p.bits ≤ k) (hmost : k + 2 ≤ p.most + p.bits) :
    (ofRatio p negative num den).Below (k + 1) := by
  rcases Nat.eq_zero_or_pos num with rfl | hnum
  · change ((0 : ℕ) : ℚ) * 2 ^ p.least < 2 ^ (k + 1)
    rw [Nat.cast_zero, zero_mul]
    positivity
  obtain ⟨e, he, hrounded⟩ := ofRatio_eq p den negative hnum.ne'
  have hguess := guess_le h hleast
  obtain ⟨hvalue, hexponent⟩ := normalized_value (e := e) hbits
    (nearestWhole (inUnits num den e).1 (inUnits num den e).2)
  rw [hrounded, if_neg (by omega)]
  change _ < (2 : ℚ) ^ (k + 1)
  rw [hvalue]
  have hratio : (num : ℚ) / den < 2 ^ k := by
    rw [div_lt_iff₀ (by positivity), mul_comm]
    exact_mod_cast h
  have hunit : (2 : ℚ) ^ e ≤ 2 ^ k := by
    rw [← zpow_natCast]
    exact zpow_le_zpow_right₀ (by norm_num) (by omega)
  calc _ ≤ (num : ℚ) / den + 2 ^ e := nearestWhole_inUnits_le hden
    _ < 2 ^ k + 2 ^ k := add_lt_add_of_lt_of_le hratio hunit
    _ = 2 ^ (k + 1) := by rw [pow_succ, mul_two]

theorem below_ofNat {n : ℕ} (hbits : 1 ≤ p.bits) (h : n < 2 ^ k)
    (hleast : p.least + p.bits ≤ k) (hmost : k + 2 ≤ p.most + p.bits) :
    (ofNat p n).Below (k + 1) :=
  below_ofRatio false hbits (by decide) (by rwa [one_mul]) hleast hmost

/-- The quotient by a number that is a power of two at least. -/
theorem Below.div {j : ℕ} (hx : x.Below (k + j)) (hy : y.AtLeast j) (hbits : 1 ≤ p.bits)
    (hleast : p.least + p.bits ≤ k) (hmost : k + 2 ≤ p.most + p.bits) :
    (x.div p y).Below (k + 1) := by
  cases x with
  | infinite negative => exact hx.elim
  | notANumber => exact hx.elim
  | finite negative m e =>
    cases y with
    | infinite negative' => exact hy.elim
    | notANumber => exact hy.elim
    | finite negative' m' e' =>
      have hdivisor : (ratio m' e').1 ≠ 0 :=
        (Nat.lt_of_lt_of_le (Nat.mul_pos (ratio_den_pos m' e') (Nat.two_pow_pos j)) hy).ne'
      have hdividend : (ratio m e).1 < (ratio m e).2 * 2 ^ (k + j) := by
        have hpos : (0 : ℚ) < (ratio m e).2 := by exact_mod_cast ratio_den_pos m e
        have hlt : ((ratio m e).1 : ℚ) < (ratio m e).2 * 2 ^ (k + j) := by
          rw [ratio_num, mul_comm]
          exact mul_lt_mul_of_pos_left hx hpos
        exact_mod_cast hlt
      change Below (k + 1) (if (ratio m' e').1 == 0 then _ else _)
      rw [if_neg (by simpa using hdivisor)]
      refine below_ofRatio _ hbits (Nat.mul_ne_zero (ratio_den_pos m e).ne' hdivisor) ?_ hleast
        hmost
      calc (ratio m e).1 * (ratio m' e').2
          < (ratio m e).2 * 2 ^ (k + j) * (ratio m' e').2 :=
            Nat.mul_lt_mul_of_pos_right hdividend (ratio_den_pos m' e')
        _ = (ratio m e).2 * ((ratio m' e').2 * 2 ^ j) * 2 ^ k := by rw [pow_add]; ac_rfl
        _ ≤ (ratio m e).2 * (ratio m' e').1 * 2 ^ k := by
            gcongr
            exact hy

end Rounding

end TypeDocs.Decimal.Binary
