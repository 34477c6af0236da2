import Mathlib.Data.Int.Log
import Mathlib.Data.Rat.Floor
import Mathlib.Tactic.Linarith
import Mathlib.Tactic.NormNum
import Mathlib.Tactic.Positivity

/-! # Numbers rounded to doubles

A double has 53 binary digits, the last of them not below `2 ^ -1074`. A rational number is rounded to
the nearest number with such digits, and what comes out from `2 ^ 1024` on is infinite. The larger of
two numbers never comes out smaller, and a number that is a double is left as it is. So a number that
lies between two doubles still does when it is rounded.
-/

namespace PositionMap.Number

/-! ## Whole numbers -/

def nearestEven (q : ℚ) : ℤ :=
  if Int.fract q < 1 / 2 then ⌊q⌋
  else if 1 / 2 < Int.fract q then ⌊q⌋ + 1
  else ⌊q⌋ + ⌊q⌋ % 2

theorem floor_le_nearestEven (q : ℚ) : ⌊q⌋ ≤ nearestEven q := by
  unfold nearestEven
  split_ifs <;> omega

theorem nearestEven_le_floor (q : ℚ) : nearestEven q ≤ ⌊q⌋ + 1 := by
  unfold nearestEven
  split_ifs <;> omega

theorem nearestEven_mono {q r : ℚ} (le : q ≤ r) : nearestEven q ≤ nearestEven r := by
  obtain same | less := (Int.floor_le_floor le).eq_or_lt
  · have parts : Int.fract q ≤ Int.fract r := by
      unfold Int.fract
      rw [same]
      linarith
    unfold nearestEven
    rw [same]
    split_ifs <;> first | omega | linarith
  · have below := nearestEven_le_floor q
    have above := floor_le_nearestEven r
    omega

@[simp] theorem nearestEven_intCast (n : ℤ) : nearestEven n = n := by
  simp [nearestEven]

/-! ## Digits -/

/-- The exponent of the last binary digit that doubles near to a positive number have. -/
def grain (q : ℚ) : ℤ :=
  max (Int.log 2 q - 52) (-1074)

/-- The nearest number with no binary digit beyond its grain. -/
def trimmed (q : ℚ) : ℚ :=
  nearestEven (q / 2 ^ grain q) * 2 ^ grain q

variable {q r : ℚ}

theorem two_zpow_pos (e : ℤ) : (0 : ℚ) < 2 ^ e :=
  zpow_pos rfl e

theorem two_zpow_split {g e : ℤ} (le : g ≤ e) : (2 : ℚ) ^ e = 2 ^ (e - g).toNat * 2 ^ g := by
  rw [← zpow_natCast, ← zpow_add₀ two_ne_zero]
  congr 1
  omega

/-- Whole units are whole numbers of finer ones. -/
theorem digits_div {g e : ℤ} (fine : g ≤ e) (n : ℤ) :
    (n * 2 ^ e : ℚ) / 2 ^ g = (n * 2 ^ (e - g).toNat : ℤ) := by
  rw [two_zpow_split fine, ← mul_assoc, mul_div_cancel_right₀ _ (two_zpow_pos g).ne']
  push_cast
  rfl

theorem le_trimmed {n e : ℤ} (fine : grain q ≤ e) (le : n * 2 ^ e ≤ q) : n * 2 ^ e ≤ trimmed q := by
  have positive := two_zpow_pos (grain q)
  have units : ((n * 2 ^ (e - grain q).toNat : ℤ) : ℚ) ≤ q / 2 ^ grain q := by
    rw [← digits_div fine]
    exact div_le_div_of_nonneg_right le positive.le
  have rounded := nearestEven_mono units
  rw [nearestEven_intCast, ← Int.cast_le (R := ℚ), ← digits_div fine] at rounded
  exact (div_le_iff₀ positive).mp rounded

theorem trimmed_le {n e : ℤ} (fine : grain q ≤ e) (le : q ≤ n * 2 ^ e) : trimmed q ≤ n * 2 ^ e := by
  have positive := two_zpow_pos (grain q)
  have units : q / 2 ^ grain q ≤ ((n * 2 ^ (e - grain q).toNat : ℤ) : ℚ) := by
    rw [← digits_div fine]
    exact div_le_div_of_nonneg_right le positive.le
  have rounded := nearestEven_mono units
  rw [nearestEven_intCast, ← Int.cast_le (R := ℚ), ← digits_div fine] at rounded
  exact (le_div_iff₀ positive).mp rounded

@[simp] theorem trimmed_zero : trimmed 0 = 0 := by
  simp [trimmed, nearestEven]

theorem trimmed_nonneg (nonneg : 0 ≤ q) : 0 ≤ trimmed q := by
  simpa using le_trimmed (n := 0) le_rfl (by simpa using nonneg)

/-- A power of two between two numbers of different grains keeps them apart. -/
theorem trimmed_mono (nonneg : 0 ≤ q) (le : q ≤ r) : trimmed q ≤ trimmed r := by
  obtain rfl | positive := nonneg.eq_or_lt
  · simpa using trimmed_nonneg le
  have logs : Int.log 2 q ≤ Int.log 2 r := Int.log_mono_right positive le
  obtain same | coarser : grain q = grain r ∨ grain q < grain r := by
    unfold grain
    omega
  · have units : q / 2 ^ grain r ≤ r / 2 ^ grain r :=
      div_le_div_of_nonneg_right le (two_zpow_pos _).le
    have whole : (nearestEven (q / 2 ^ grain r) : ℚ) ≤ nearestEven (r / 2 ^ grain r) :=
      Int.cast_le.mpr (nearestEven_mono units)
    unfold trimmed
    rw [same]
    exact mul_le_mul_of_nonneg_right whole (two_zpow_pos _).le
  · have apart : grain q ≤ Int.log 2 r ∧ grain r ≤ Int.log 2 r ∧ Int.log 2 q < Int.log 2 r := by
      unfold grain at *
      omega
    obtain ⟨below, above, smaller⟩ := apart
    have under : q ≤ (1 : ℤ) * 2 ^ Int.log 2 r := by
      rw [Int.cast_one, one_mul]
      exact ((Int.lt_zpow_iff_log_lt one_lt_two positive).mpr smaller).le
    have power : (1 : ℤ) * 2 ^ Int.log 2 r ≤ r := by
      rw [Int.cast_one, one_mul]
      exact Int.zpow_log_le_self one_lt_two (positive.trans_le le)
    exact (trimmed_le below under).trans (le_trimmed above power)

/-- A number of 53 binary digits has nothing to trim. -/
theorem trimmed_digits {n e : ℤ} (positive : 0 < n) (short : n < 2 ^ 53) (fine : -1074 ≤ e) :
    trimmed (n * 2 ^ e) = n * 2 ^ e := by
  have below : (n * 2 ^ e : ℚ) < 2 ^ (53 + e) := by
    rw [zpow_add₀ two_ne_zero]
    exact mul_lt_mul_of_pos_right (by exact_mod_cast short) (two_zpow_pos e)
  have log : Int.log 2 (n * 2 ^ e : ℚ) < 53 + e :=
    (Int.lt_zpow_iff_log_lt one_lt_two (mul_pos (by exact_mod_cast positive) (two_zpow_pos e))).mp
      (by exact_mod_cast below)
  have grained : grain (n * 2 ^ e) ≤ e := by
    unfold grain
    omega
  exact (trimmed_le grained le_rfl).antisymm (le_trimmed grained le_rfl)

/-! ## Doubles -/

/-- The least power of two that no double reaches. -/
def limit : ℚ := 2 ^ (1024 : ℤ)

/-- The nearest number with the digits of a double, whatever its exponent. -/
def nearest (q : ℚ) : ℚ :=
  if q < 0 then -trimmed (-q) else trimmed q

def clamp (q : ℚ) : ℚ :=
  max (-limit) (min limit q)

/-- What a number becomes as a double: the nearest one, or, beyond them, infinite. -/
def rounded (q : ℚ) : ℚ :=
  clamp (nearest q)

theorem nearest_mono : Monotone nearest := by
  intro q r le
  unfold nearest
  split_ifs with left right right
  · exact neg_le_neg (trimmed_mono (neg_pos.mpr right).le (neg_le_neg le))
  · have mirrored := trimmed_nonneg (neg_pos.mpr left).le
    have nonneg := trimmed_nonneg (not_lt.mp right)
    linarith
  · exact absurd (le.trans_lt right) left
  · exact trimmed_mono (not_lt.mp left) le

theorem limit_pos : 0 < limit :=
  two_zpow_pos 1024

theorem clamp_of_abs_le (within : |q| ≤ limit) : clamp q = q := by
  rw [clamp, min_eq_right (abs_le.mp within).2, max_eq_right (abs_le.mp within).1]

theorem clamp_of_limit_le (beyond : limit ≤ q) : clamp q = limit := by
  rw [clamp, min_eq_left beyond, max_eq_right (neg_lt_self limit_pos).le]

theorem clamp_of_le_neg_limit (beyond : q ≤ -limit) : clamp q = -limit :=
  max_eq_left ((min_le_right _ _).trans beyond)

theorem clamp_mono : Monotone clamp := fun _ _ le =>
  max_le_max_left _ (min_le_min_left _ le)

theorem rounded_mono : Monotone rounded :=
  clamp_mono.comp nearest_mono

theorem nearest_digits {n e : ℤ} (short : |n| < 2 ^ 53) (fine : -1074 ≤ e) :
    nearest (n * 2 ^ e) = n * 2 ^ e := by
  have sign : (n * 2 ^ e : ℚ) < 0 ↔ n < 0 := by
    simp [mul_neg_iff, two_zpow_pos e, (two_zpow_pos e).not_gt]
  unfold nearest
  rw [if_congr sign rfl rfl]
  split_ifs with negative
  · have mirrored :=
      trimmed_digits (n := -n) (neg_pos.mpr negative) ((neg_le_abs n).trans_lt short) fine
    rw [← neg_mul, ← Int.cast_neg, mirrored]
    simp
  · obtain rfl | positive := (not_lt.mp negative).eq_or_lt
    · simp
    · exact trimmed_digits positive ((le_abs_self n).trans_lt short) fine

def IsDouble (q : ℚ) : Prop :=
  ∃ n e : ℤ, |n| < 2 ^ 53 ∧ -1074 ≤ e ∧ e ≤ 971 ∧ q = n * 2 ^ e

namespace IsDouble

theorem abs_lt_limit (double : IsDouble q) : |q| < limit := by
  obtain ⟨n, e, short, -, small, rfl⟩ := double
  rw [abs_mul, abs_of_pos (two_zpow_pos e)]
  calc (|(n : ℚ)| * 2 ^ e : ℚ)
      < 2 ^ (53 : ℤ) * 2 ^ e :=
        mul_lt_mul_of_pos_right (by exact_mod_cast short) (two_zpow_pos e)
    _ = 2 ^ (53 + e) := (zpow_add₀ two_ne_zero _ _).symm
    _ ≤ limit := zpow_le_zpow_right₀ one_le_two (by omega)

theorem rounded_eq (double : IsDouble q) : rounded q = q := by
  have within := double.abs_lt_limit.le
  obtain ⟨n, e, short, fine, -, rfl⟩ := double
  rw [rounded, nearest_digits short fine, clamp_of_abs_le within]

theorem rounded_le (double : IsDouble r) (le : q ≤ r) : rounded q ≤ r :=
  (rounded_mono le).trans_eq double.rounded_eq

theorem le_rounded (double : IsDouble q) (le : q ≤ r) : q ≤ rounded r :=
  double.rounded_eq.symm.trans_le (rounded_mono le)

theorem intCast {n : ℤ} (short : |n| < 2 ^ 53) : IsDouble n :=
  ⟨n, 0, short, by decide, by decide, by simp⟩

theorem zero : IsDouble 0 := by
  simpa using intCast (n := 0) (by decide)

theorem one : IsDouble 1 := by
  simpa using intCast (n := 1) (by decide)

theorem neg (double : IsDouble q) : IsDouble (-q) := by
  obtain ⟨n, e, short, fine, small, rfl⟩ := double
  exact ⟨-n, e, by rwa [abs_neg], fine, small, by simp⟩

theorem half (double : IsDouble q) (large : 1 ≤ q) : IsDouble (q / 2) := by
  obtain ⟨n, e, short, fine, small, rfl⟩ := double
  have digits : (1 : ℚ) < 2 ^ (53 + e) :=
    calc (1 : ℚ) ≤ n * 2 ^ e := large
      _ < 2 ^ (53 : ℤ) * 2 ^ e :=
        mul_lt_mul_of_pos_right (by exact_mod_cast (le_abs_self n).trans_lt short) (two_zpow_pos e)
      _ = 2 ^ (53 + e) := (zpow_add₀ two_ne_zero _ _).symm
  have coarse : 0 < 53 + e := (one_lt_zpow_iff_right₀ one_lt_two).mp digits
  refine ⟨n, e - 1, short, by omega, by omega, ?_⟩
  rw [zpow_sub_one₀ two_ne_zero, mul_div_assoc, div_eq_mul_inv]

end IsDouble

end PositionMap.Number
