import PositionMap.Proofs.Number.Rounding

/-! # Sums, differences, products and quotients

Each operation on unpacked doubles has the exact result of their values for its number, rounded once.
-/

namespace PositionMap.Number

open Float.Model (UnpackedFloat Format totalExponent)
open Float.Model.UnpackedFloat

variable {u v : UnpackedFloat} {q x : ℚ} {m n : ℕ} {e f : ℤ}

/-- An unpacked number is the nearest one to the number that it is meant to be. -/
structure Trims (u : UnpackedFloat) (q : ℚ) : Prop where
  whole : Whole u
  value : valueOf u = nearest q

theorem Whole.trims (whole : Whole u) : Trims u (valueOf u) := by
  refine ⟨whole, ?_⟩
  cases u with
  | zero s => simp [valueOf, nearest]
  | finite s m e positive =>
      have short : |(m : ℤ)| < 2 ^ 53 := Aligned.abs_lt whole
      cases s
      · have mirrored := nearest_digits (n := -m) ((abs_neg _).trans_lt short) whole.fine
        simpa [valueOf, signed] using mirrored.symm
      · exact (nearest_digits short whole.fine).symm
  | _ => cases whole

theorem nearest_signed (s : Sign) (positive : 0 < x) : nearest (signed s x) = signed s (trimmed x) := by
  cases s
  · rw [signed, nearest, if_pos (neg_neg_of_pos positive), neg_neg]
    rfl
  · exact if_neg positive.le.not_gt

/-- The first digit of a number is that of its whole part. -/
theorem log_of_floor (floor : ⌊q⌋ = (m : ℤ)) (some : 0 < m) (e : ℤ) :
    Int.log 2 (q * 2 ^ e) = m.log2 + e := by
  obtain ⟨least, next⟩ := Int.floor_eq_iff.mp floor
  have above : (2 ^ m.log2 : ℚ) ≤ q := by
    refine le_trans ?_ least
    exact_mod_cast Nat.log2_self_le some.ne'
  have below : q < 2 ^ (m.log2 + 1) := by
    refine next.trans_le ?_
    exact_mod_cast Nat.succ_le_of_lt (Nat.lt_log2_self (n := m))
  have positive : 0 < q * 2 ^ e := mul_pos ((pow_pos two_pos _).trans_le above) (two_zpow_pos e)
  refine le_antisymm (Int.lt_add_one_iff.mp ((Int.lt_zpow_iff_log_lt one_lt_two positive).mp ?_))
    ((Int.zpow_le_iff_le_log one_lt_two positive).mp ?_)
  · calc q * 2 ^ e < 2 ^ (m.log2 + 1) * 2 ^ e := mul_lt_mul_of_pos_right below (two_zpow_pos e)
      _ = 2 ^ (m.log2 + e + 1) := by
        rw [← zpow_natCast, ← zpow_add₀ two_ne_zero]
        congr 1
        omega
  · calc (2 ^ (m.log2 + e) : ℚ) = 2 ^ m.log2 * 2 ^ e := by
          rw [zpow_add₀ two_ne_zero, zpow_natCast]
      _ ≤ q * 2 ^ e := mul_le_mul_of_nonneg_right above (two_zpow_pos e).le

theorem log_digits (positive : 0 < m) (e : ℤ) : Int.log 2 (m * 2 ^ e : ℚ) = m.log2 + e :=
  log_of_floor (Int.floor_natCast m) positive e

theorem grain_digits (positive : 0 < m) (e : ℤ) :
    grain (m * 2 ^ e) = max (m.log2 + e - 52) (-1074) := by
  rw [grain, log_digits positive]

/-- Digits that are known exactly. -/
theorem trims_exact (s : Sign) (positive : 0 < m) (fine : 52 ≤ m.log2 ∨ e ≤ -1074) :
    Trims (roundWithAccuracy .binary64 s m e .exact) (signed s (m * 2 ^ e)) := by
  have above : (0 : ℚ) < m * 2 ^ e := digits_pos positive e
  have grained := grain_digits positive e
  have digits : Represents (.ofMantissaAndAccuracy m .exact) m := rfl
  obtain ⟨whole, value⟩ := round_trimmed s digits above (by omega) grained.symm
  exact ⟨whole, value.trans (nearest_signed s above).symm⟩

theorem decreaseExponent_value (m : ℕ) (e t : ℤ) :
    ((decreaseExponent m e t).1 * 2 ^ (decreaseExponent m e t).2 : ℚ) = m * 2 ^ e := by
  unfold decreaseExponent
  dsimp only
  rw [Nat.shiftLeft_eq, Nat.cast_mul, Nat.cast_pow, Nat.cast_ofNat, mul_assoc, ← zpow_natCast,
    ← zpow_add₀ two_ne_zero]
  congr 2
  omega

theorem trims_round (s : Sign) (positive : 0 < m) (e : ℤ) :
    Trims (UnpackedFloat.round .binary64 s m e) (signed s (m * 2 ^ e)) := by
  unfold UnpackedFloat.round
  rw [targetExponent_eq]
  let t : ℤ := max (m.log2 + e - 52) (-1074)
  have same := decreaseExponent_value m e t
  have some : 0 < (decreaseExponent m e t).1 := Nat.shiftLeft_pos_iff.mpr positive
  have logs := log_digits some (decreaseExponent m e t).2
  rw [same, log_digits positive] at logs
  have exponent : (decreaseExponent m e t).2 = e - (e - t).toNat := rfl
  have fine : 52 ≤ (decreaseExponent m e t).1.log2 ∨ (decreaseExponent m e t).2 ≤ -1074 := by omega
  rw [← same]
  exact trims_exact s some fine

theorem trims_normalize (n e : ℤ) (s : Sign) :
    Trims (UnpackedFloat.normalize .binary64 n e s) (n * 2 ^ e) := by
  unfold UnpackedFloat.normalize
  rcases lt_trichotomy n 0 with negative | rfl | positive
  · have mirrored : ((-n).toNat : ℚ) = -n := by
      exact_mod_cast Int.toNat_of_nonneg (neg_nonneg.mpr negative.le)
    have rounded := trims_round .negative (m := (-n).toNat) (by omega) e
    rw [signed, mirrored, neg_mul, neg_neg] at rounded
    rw [compare_lt_iff_lt.mpr negative]
    exact rounded
  · exact ⟨trivial, by simp [valueOf, nearest]⟩
  · have same : (n.toNat : ℚ) = n := by exact_mod_cast Int.toNat_of_nonneg positive.le
    have rounded := trims_round .positive (m := n.toNat) (by omega) e
    rw [signed, same] at rounded
    rw [compare_gt_iff_gt.mpr positive]
    exact rounded

/-! ## The four operations -/

theorem signed_decreased (s : Sign) (m : ℕ) {e t : ℤ} (le : t ≤ e) :
    ((s.apply (decreaseExponent m e t).1 : ℤ) * 2 ^ t : ℚ) = signed s (m * 2 ^ e) := by
  have same := decreaseExponent_value m e t
  have exponent : (decreaseExponent m e t).2 = t := by
    change e - (e - t).toNat = t
    omega
  rw [exponent] at same
  cases s <;> simp [Sign.apply, signed, ← same]

theorem trims_zero (s : Sign) : Trims (.zero s) 0 :=
  Whole.trims (u := .zero s) trivial

theorem trims_add (left : Whole u) (right : Whole v) :
    Trims (u.add .binary64 v) (valueOf u + valueOf v) := by
  cases u with
  | zero s =>
      cases v with
      | zero t =>
          change Trims (if s == t then .zero s else .zero .positive) (0 + 0)
          rw [add_zero]
          split <;> exact trims_zero _
      | finite t n f second =>
          have sum := right.trims
          rw [← zero_add (valueOf _)] at sum
          exact sum
      | _ => cases right
  | finite s m e positive =>
      cases v with
      | zero t =>
          have sum := left.trims
          rw [← add_zero (valueOf _)] at sum
          exact sum
      | finite t n f second =>
          have sum := trims_normalize
            (s.apply (decreaseExponent m e (min e f)).1 + t.apply (decreaseExponent n f (min e f)).1)
            (min e f) .positive
          rw [Int.cast_add, add_mul, signed_decreased s m (min_le_left e f),
            signed_decreased t n (min_le_right e f)] at sum
          exact sum
      | _ => cases right
  | _ => cases left

theorem valueOf_neg (u : UnpackedFloat) : valueOf u.neg = -valueOf u := by
  cases u with
  | notANumber => exact neg_zero.symm
  | infinity s =>
      cases s
      · exact (neg_neg limit).symm
      · rfl
  | zero s => exact neg_zero.symm
  | finite s m e positive =>
      cases s
      · exact (neg_neg _).symm
      · rfl

theorem trims_sub (left : Whole u) (right : Whole v) :
    Trims (u.sub .binary64 v) (valueOf u - valueOf v) := by
  cases u with
  | zero s =>
      cases v with
      | zero t =>
          change Trims (if s == -t then .zero s else .zero .positive) (0 - 0)
          rw [sub_zero]
          split <;> exact trims_zero _
      | finite t n f second =>
          have mirrored : Trims (.finite (-t) n f second) (valueOf (.finite (-t) n f second)) :=
            Whole.trims right
          have value : valueOf (.finite (-t) n f second) = 0 - valueOf (.finite t n f second) := by
            rw [zero_sub]
            exact valueOf_neg (.finite t n f second)
          rw [value] at mirrored
          exact mirrored
      | _ => cases right
  | finite s m e positive =>
      cases v with
      | zero t =>
          have difference := left.trims
          rw [← sub_zero (valueOf _)] at difference
          exact difference
      | finite t n f second =>
          have difference := trims_normalize
            (s.apply (decreaseExponent m e (min e f)).1 - t.apply (decreaseExponent n f (min e f)).1)
            (min e f) .positive
          rw [Int.cast_sub, sub_mul, signed_decreased s m (min_le_left e f),
            signed_decreased t n (min_le_right e f)] at difference
          exact difference
      | _ => cases right
  | _ => cases left

theorem signed_mul (s t : Sign) (q r : ℚ) : signed (s * t) (q * r) = signed s q * signed t r := by
  cases s <;> cases t <;> simp [signed]

theorem trims_mul (left : Whole u) (right : Whole v) :
    Trims (u.mul .binary64 v) (valueOf u * valueOf v) := by
  cases u with
  | zero s =>
      rw [show valueOf (.zero s) = 0 from rfl, zero_mul]
      cases v with
      | zero t => exact trims_zero (s * t)
      | finite t n f second => exact trims_zero (s * t)
      | _ => cases right
  | finite s m e positive =>
      cases v with
      | zero t =>
          rw [show valueOf (.zero t) = 0 from rfl, mul_zero]
          exact trims_zero (s * t)
      | finite t n f second =>
          have many : 0 < m * n := Nat.mul_pos positive second
          have fine : 52 ≤ (m * n).log2 ∨ e + f ≤ -1074 := by
            have digits (long : 2 ^ 52 ≤ m ∨ 2 ^ 52 ≤ n) : 52 ≤ (m * n).log2 := by
              refine (Nat.le_log2 many.ne').mpr (long.elim ?_ ?_)
              · exact fun long => long.trans (Nat.le_mul_of_pos_right m second)
              · exact fun long => long.trans (Nat.le_mul_of_pos_left n positive)
            have places := left.leading
            have more := right.leading
            omega
          have product := trims_exact (s * t) many fine
          rw [zpow_add₀ two_ne_zero, Nat.cast_mul, mul_mul_mul_comm, signed_mul] at product
          exact product
      | _ => cases right
  | _ => cases left

/-- A quotient of whole numbers, and what its remainder tells of the rest. -/
theorem represents_quotient (m : ℕ) (some : 0 < n) :
    Represents (.ofMantissaAndAccuracy (m / n) (accuracyOfFraction (m % n) n)) (m / n : ℚ) := by
  have positive : (0 : ℚ) < n := by exact_mod_cast some
  have split : (m : ℚ) = n * (m / n : ℕ) + (m % n : ℕ) := by exact_mod_cast (Nat.div_add_mod m n).symm
  have parts : (m / n : ℚ) = (m / n : ℕ) + (m % n : ℕ) / n := by
    rw [div_eq_iff positive.ne', add_mul, div_mul_cancel₀ _ positive.ne', split, mul_comm]
  have short : ((m % n : ℕ) / n : ℚ) < 1 := by
    rw [div_lt_one positive]
    exact_mod_cast Nat.mod_lt m some
  rw [parts]
  unfold accuracyOfFraction
  by_cases none : m % n = 0
  · rw [if_pos none, none]
    simp [Represents, ExtendedMantissa.ofMantissaAndAccuracy]
  rw [if_neg none]
  -- the remainder is compared with half of the denominator
  have rest : (0 : ℚ) < (m % n : ℕ) / n := div_pos (by exact_mod_cast Nat.pos_of_ne_zero none) positive
  rcases lt_trichotomy (2 * (m % n)) n with less | half | more
  · have below : ((m % n : ℕ) / n : ℚ) < 1 / 2 := by
      rw [div_lt_div_iff₀ positive two_pos, mul_comm, one_mul]
      exact_mod_cast less
    rw [compare_lt_iff_lt.mpr less]
    exact ⟨lt_add_of_pos_right _ rest, add_lt_add_right below _⟩
  · have same : ((m % n : ℕ) / n : ℚ) = 1 / 2 := by
      rw [div_eq_div_iff positive.ne' two_ne_zero, mul_comm, one_mul]
      exact_mod_cast half
    rw [compare_eq_iff_eq.mpr half]
    exact congrArg _ same
  · have above : (1 / 2 : ℚ) < (m % n : ℕ) / n := by
      rw [div_lt_div_iff₀ two_pos positive, one_mul, mul_comm]
      exact_mod_cast more
    rw [compare_gt_iff_gt.mpr more]
    exact ⟨add_lt_add_right above _, add_lt_add_right short _⟩

theorem signed_div (s t : Sign) (q r : ℚ) : signed (s / t) (q / r) = signed s q / signed t r := by
  cases s <;> cases t
  · exact (neg_div_neg_eq q r).symm
  · exact (neg_div r q).symm
  · exact (div_neg q).symm
  · rfl

/-- A quotient begins at most one place after the difference of the places of its two sides. -/
theorem log_quotient (positive : 0 < m) (second : 0 < n) (e f : ℤ) :
    m.log2 + e - (n.log2 + f) - 1 ≤ Int.log 2 (m * 2 ^ e / (n * 2 ^ f) : ℚ) := by
  have numerator := digits_pos positive e
  have denominator := digits_pos second f
  have least : (2 ^ (m.log2 + e) : ℚ) ≤ m * 2 ^ e :=
    (Int.zpow_le_iff_le_log one_lt_two numerator).mpr (log_digits positive e).ge
  have next : (n * 2 ^ f : ℚ) ≤ 2 ^ (n.log2 + f + 1) :=
    ((Int.lt_zpow_iff_log_lt one_lt_two denominator).mpr (by rw [log_digits second]; omega)).le
  refine (Int.zpow_le_iff_le_log one_lt_two (div_pos numerator denominator)).mp ?_
  calc (2 ^ (m.log2 + e - (n.log2 + f) - 1) : ℚ)
      = 2 ^ (m.log2 + e) / 2 ^ (n.log2 + f + 1) := by rw [← zpow_sub₀ two_ne_zero, sub_sub]
    _ ≤ m * 2 ^ e / (n * 2 ^ f) := div_le_div₀ numerator.le least denominator next

@[simp] theorem mantissa_ofMantissaAndAccuracy (m : ℕ) (accuracy : Accuracy) :
    (ExtendedMantissa.ofMantissaAndAccuracy m accuracy).mantissa = m := by
  cases accuracy with
  | exact => rfl
  | inexact side => cases side <;> rfl

/-- Division is carried out to an exponent that is small enough for rounding. -/
theorem represents_divCore (m : ℕ) (e : ℤ) (second : 0 < n) (f : ℤ) :
    let core := divCore .binary64 m e n f
    core.2.1 ≤ max (m.log2 + e - (n.log2 + f) - 53) (-1074) ∧
      ∃ q : ℚ, Represents (.ofMantissaAndAccuracy core.1 core.2.2) q ∧
        q * 2 ^ core.2.1 = m * 2 ^ e / (n * 2 ^ f) := by
  let t : ℤ := min (e - f) (max (m.log2 + e - (n.log2 + f) - 53) (-1074))
  have exponent : (divCore .binary64 m e n f).2.1 = t := by
    unfold divCore
    dsimp only [t]
    rw [targetExponent_binary64, totalExponent, totalExponent]
    omega
  have core : divCore .binary64 m e n f =
      (m <<< (e - f - t).toNat / n, t, accuracyOfFraction (m <<< (e - f - t).toNat % n) n) := by
    rw [← exponent]
    rfl
  rw [core]
  refine ⟨min_le_right _ _, _, represents_quotient _ second, ?_⟩
  calc ((m <<< (e - f - t).toNat : ℕ) / n * 2 ^ t : ℚ)
      = m / n * (2 ^ (e - f - t).toNat * 2 ^ t) := by
        rw [Nat.shiftLeft_eq]
        push_cast
        ring
    _ = m / n * (2 ^ e / 2 ^ f) := by rw [← two_zpow_split (min_le_left _ _), zpow_sub₀ two_ne_zero]
    _ = m * 2 ^ e / (n * 2 ^ f) := div_mul_div_comm _ _ _ _

theorem log_of_floor_zero (floor : ⌊q⌋ = 0) (positive : 0 < q) (e : ℤ) :
    Int.log 2 (q * 2 ^ e) < e := by
  have part : q < 1 := by simpa using (Int.floor_eq_iff.mp floor).2
  exact (Int.lt_zpow_iff_log_lt one_lt_two (mul_pos positive (two_zpow_pos e))).mp
    (mul_lt_of_lt_one_left (two_zpow_pos e) part)

theorem trims_div (left : Whole u) (right : Whole v) (nonzero : valueOf v ≠ 0) :
    Trims (u.div .binary64 v) (valueOf u / valueOf v) := by
  cases v with
  | zero t => exact absurd rfl nonzero
  | finite t n f second =>
      cases u with
      | zero s =>
          rw [show valueOf (.zero s) = 0 from rfl, zero_div]
          exact trims_zero (s / t)
      | finite s m e positive =>
          let core := divCore .binary64 m e n f
          obtain ⟨(fine : core.2.1 ≤ _), q, represents, exact⟩ := represents_divCore m e second f
          have above : 0 < q * 2 ^ core.2.1 :=
            exact ▸ div_pos (digits_pos positive e) (digits_pos second f)
          have log : m.log2 + e - (n.log2 + f) - 1 ≤ Int.log 2 (q * 2 ^ core.2.1) :=
            exact ▸ log_quotient positive second e f
          have floor : ⌊q⌋ = (core.1 : ℤ) := by
            rw [represents.floor, mantissa_ofMantissaAndAccuracy]
          have target : max (core.1.log2 + core.2.1 - 52) (-1074) = grain (q * 2 ^ core.2.1) := by
            unfold grain
            by_cases none : core.1 = 0
            · -- a quotient without digits before the point is below all places
              have small := log_of_floor_zero (by rw [floor, none]; rfl)
                ((mul_pos_iff_of_pos_right (two_zpow_pos _)).mp above) core.2.1
              have zero : Nat.log2 0 = 0 := rfl
              rw [none]
              omega
            · rw [log_of_floor floor (Nat.pos_of_ne_zero none)]
          have early : core.2.1 ≤ grain (q * 2 ^ core.2.1) := by
            unfold grain
            omega
          obtain ⟨whole, value⟩ := round_trimmed (s / t) represents above early target
          rw [valueOf, valueOf, ← signed_div, ← exact]
          exact ⟨whole, value.trans (nearest_signed _ above).symm⟩
      | _ => cases left
  | _ => cases right

end PositionMap.Number
