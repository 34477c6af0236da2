import PositionMap.Proofs.Number.Value

/-! # Rounding by the bits that are left over

Arithmetic keeps the digits before the point and two bits of what follows: whether the rest is at least
one half, and whether there is more to it. These suffice to round to the nearest number, and they are
kept when the point is moved.
-/

namespace PositionMap.Number

open Float.Model (Format totalExponent)
open Float.Model.UnpackedFloat

/-- The digits before the point of a number, and what the two bits after them tell of the rest. -/
def Represents (em : ExtendedMantissa) (q : ℚ) : Prop :=
  match em.roundBit, em.stickyBit with
  | false, false => q = em.mantissa
  | false, true => em.mantissa < q ∧ q < em.mantissa + 1 / 2
  | true, false => q = em.mantissa + 1 / 2
  | true, true => em.mantissa + 1 / 2 < q ∧ q < em.mantissa + 1

variable {em : ExtendedMantissa} {q x : ℚ} {m : ℕ} {e g : ℤ}

theorem Represents.floor (represents : Represents em q) : ⌊q⌋ = (em.mantissa : ℤ) := by
  obtain ⟨m, round, sticky⟩ := em
  rw [Int.floor_eq_iff]
  cases round <;> cases sticky <;> simp only [Represents] at represents <;> push_cast <;>
    constructor <;> linarith

theorem Represents.roundedMantissa (represents : Represents em q) :
    (em.roundedMantissa : ℤ) = nearestEven q := by
  have floor := represents.floor
  have fraction : Int.fract q = q - em.mantissa := by
    rw [Int.fract, floor]
    rfl
  obtain ⟨m, round, sticky⟩ := em
  unfold nearestEven
  rw [floor, fraction]
  cases round <;> cases sticky <;> simp only [Represents] at represents
  · rw [if_pos (by linarith)]
    rfl
  · rw [if_pos (by linarith)]
    rfl
  · rw [if_neg (by linarith), if_neg (by linarith)]
    rfl
  · rw [if_neg (by linarith), if_pos (by linarith)]
    rfl

/-- Moving the point by one place turns the last digit into the first bit after it. -/
theorem Represents.shiftRightOne (represents : Represents em q) :
    Represents em.shiftRightOne (q / 2) := by
  obtain ⟨m, round, sticky⟩ := em
  have digits : (m : ℚ) = 2 * (m / 2 : ℕ) + (m % 2 : ℕ) := by exact_mod_cast (Nat.div_add_mod m 2).symm
  obtain even | odd := Nat.mod_two_eq_zero_or_one m
  · have bit : (m % 2 != 0) = false := by rw [even]; rfl
    rw [even] at digits
    push_cast at digits
    cases round <;> cases sticky <;>
      simp only [Represents, ExtendedMantissa.shiftRightOne, bit, Bool.or_false, Bool.or_true]
        at represents ⊢ <;>
      first | linarith | constructor <;> linarith
  · have bit : (m % 2 != 0) = true := by rw [odd]; rfl
    rw [odd] at digits
    push_cast at digits
    cases round <;> cases sticky <;>
      simp only [Represents, ExtendedMantissa.shiftRightOne, bit, Bool.or_false, Bool.or_true]
        at represents ⊢ <;>
      first | linarith | constructor <;> linarith

theorem Represents.shiftRight (represents : Represents em q) (n : ℕ) :
    Represents (em >>> n) (q / 2 ^ n) := by
  induction n with
  | zero =>
      rw [pow_zero, div_one]
      exact represents
  | succ n ih =>
      rw [pow_succ, ← div_div]
      exact ih.shiftRightOne

/-! ## Rounding -/

theorem targetExponent_binary64 (total : ℤ) :
    Format.binary64.targetExponent total = max (total - 53) (-1074) := rfl

theorem targetExponent_eq (m : ℕ) (e : ℤ) :
    Format.binary64.targetExponent (totalExponent m e) = max (m.log2 + e - 52) (-1074) := by
  rw [targetExponent_binary64, totalExponent]
  omega

/-- Digits that were rounded up may be one too many, and are moved by one place then. -/
theorem aligned_carried {r : ℕ} (short : r ≤ 2 ^ 53) (fine : -1074 ≤ g)
    (leading : 2 ^ 52 ≤ r ∨ g = -1074) :
    let moved := shiftToTargetExponent .binary64 r g .exact
    Aligned moved.1.mantissa moved.2 ∧ (moved.1.mantissa * 2 ^ moved.2 : ℚ) = r * 2 ^ g := by
  unfold shiftToTargetExponent shiftToExponent
  rw [targetExponent_eq]
  obtain fits | rfl := short.lt_or_eq
  · have log : r.log2 < 53 := by
      by_cases none : r = 0
      · rw [none]
        decide
      · exact (Nat.log2_lt none).mpr fits
    have places : (max ((r.log2 : ℤ) + g - 52) (-1074) - g).toNat = 0 := by omega
    dsimp only
    rw [places, Nat.cast_zero, add_zero]
    exact ⟨⟨fits, fine, leading⟩, rfl⟩
  · have places : (max (((2 ^ 53 : ℕ).log2 : ℤ) + g - 52) (-1074) - g).toNat = 1 := by
      rw [Nat.log2_two_pow]
      omega
    dsimp only
    rw [places]
    refine ⟨⟨by decide, ?_, .inl le_rfl⟩, ?_⟩
    · change -1074 ≤ g + 1
      omega
    · change ((2 ^ 52 : ℕ) : ℚ) * 2 ^ (g + 1) = _
      rw [zpow_add_one₀ two_ne_zero]
      push_cast
      ring

/-- The digits that are left of a number once it is trimmed. -/
theorem digits_of_trimmed {r : ℤ} (positive : 0 < x) (digits : trimmed x = r * 2 ^ grain x) :
    0 ≤ r ∧ r ≤ 2 ^ 53 ∧ (2 ^ 52 ≤ r ∨ grain x = -1074) := by
  have cancel {a b : ℤ} (le : (a * 2 ^ grain x : ℚ) ≤ b * 2 ^ grain x) : a ≤ b :=
    Int.cast_le.mp ((mul_le_mul_iff_of_pos_right (two_zpow_pos _)).mp le)
  have scale (k : ℕ) (e : ℤ) : ((2 ^ k : ℤ) : ℚ) * 2 ^ e = 2 ^ (k + e) := by
    rw [zpow_add₀ two_ne_zero, zpow_natCast, Int.cast_pow, Int.cast_ofNat]
  refine ⟨cancel ?_, cancel ?_, ?_⟩
  · rw [← digits]
    simpa using trimmed_nonneg positive.le
  · rw [← digits]
    refine trimmed_le le_rfl ?_
    rw [scale]
    refine ((Int.lt_zpow_iff_log_lt one_lt_two positive).mpr ?_).le
    unfold grain
    omega
  · refine or_iff_not_imp_right.mpr fun coarse => cancel ?_
    rw [← digits]
    refine le_trimmed le_rfl ?_
    rw [scale]
    refine (Int.zpow_le_iff_le_log one_lt_two positive).mpr ?_
    unfold grain at *
    omega

theorem round_trimmed (s : Sign) {accuracy : Accuracy}
    (represents : Represents (.ofMantissaAndAccuracy m accuracy) q) (positive : 0 < q * 2 ^ e)
    (fine : e ≤ grain (q * 2 ^ e)) (target : max (m.log2 + e - 52) (-1074) = grain (q * 2 ^ e)) :
    Whole (roundWithAccuracy .binary64 s m e accuracy) ∧
      valueOf (roundWithAccuracy .binary64 s m e accuracy) = signed s (trimmed (q * 2 ^ e)) := by
  let g := grain (q * 2 ^ e)
  have first : shiftToTargetExponent .binary64 m e accuracy =
      (ExtendedMantissa.ofMantissaAndAccuracy m accuracy >>> (g - e).toNat, g) := by
    unfold shiftToTargetExponent shiftToExponent
    rw [targetExponent_eq, target]
    refine Prod.ext rfl ?_
    change e + ((g - e).toNat : ℤ) = g
    omega
  -- the digits that are kept are counted in units of the last place
  have units : q / 2 ^ (g - e).toNat = q * 2 ^ e / 2 ^ g := by
    rw [two_zpow_split fine, mul_div_mul_right _ _ (two_zpow_pos e).ne']
  obtain ⟨r, rounded⟩ : ∃ r,
      (ExtendedMantissa.ofMantissaAndAccuracy m accuracy >>> (g - e).toNat).roundedMantissa = r :=
    ⟨_, rfl⟩
  have digits : trimmed (q * 2 ^ e) = (r : ℤ) * 2 ^ g := by
    have whole := (represents.shiftRight (g - e).toNat).roundedMantissa
    rw [units, rounded] at whole
    rw [whole]
    rfl
  obtain ⟨-, short, leading⟩ := digits_of_trimmed positive digits
  obtain ⟨aligned, same⟩ := aligned_carried (r := r) (g := g) (by exact_mod_cast short)
    (le_max_right _ _) (by exact_mod_cast leading)
  unfold roundWithAccuracy
  simp only [first, rounded]
  rw [digits, Int.cast_natCast, ← same]
  split
  · rename_i none
    refine ⟨trivial, ?_⟩
    rw [none]
    cases s <;> simp [valueOf, signed]
  · exact ⟨aligned, rfl⟩

end PositionMap.Number
