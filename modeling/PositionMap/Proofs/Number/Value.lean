import Mathlib
import PositionMap.Number.Exact
import PositionMap.Proofs.Number.Nearest

/-! # The value of a double

The number that an unpacked double stands for. Doubles compare as their values do, since the digits of
each fill their places: the greater exponent makes the greater number. Packing a number keeps its value
if there is such a double, and makes it infinite if not.
-/

namespace PositionMap.Number

open Float.Model (UnpackedFloat)
open Float.Model.UnpackedFloat

def signed (s : Sign) (q : ℚ) : ℚ :=
  match s with
  | .negative => -q
  | .positive => q

/-- The number that is meant. An infinite one stands at the limit, and a missing one at zero. -/
def valueOf : UnpackedFloat → ℚ
  | .notANumber | .zero _ => 0
  | .infinity s => signed s limit
  | .finite s m e _ => signed s (m * 2 ^ e)

/-- Digits that fill all 53 places, unless the exponent is the least there is. -/
structure Aligned (m : ℕ) (e : ℤ) : Prop where
  short : m < 2 ^ 53
  fine : -1074 ≤ e
  leading : 2 ^ 52 ≤ m ∨ e = -1074

def Packable : UnpackedFloat → Prop
  | .finite _ m e _ => Aligned m e ∧ e ≤ 971
  | _ => True

variable {m n : ℕ} {e f : ℤ}

theorem Aligned.abs_lt (aligned : Aligned m e) : |(m : ℤ)| < 2 ^ 53 := by
  rw [Nat.abs_cast]
  exact_mod_cast aligned.short

theorem Aligned.lt (left : Aligned m e) (right : Aligned n f) (less : e < f) :
    (m * 2 ^ e : ℚ) < n * 2 ^ f := by
  have leading : 2 ^ 52 ≤ n := right.leading.resolve_right (by have := left.fine; omega)
  calc (m * 2 ^ e : ℚ)
      < 2 ^ (53 : ℤ) * 2 ^ e :=
        mul_lt_mul_of_pos_right (by exact_mod_cast left.short) (two_zpow_pos e)
    _ = 2 ^ (52 : ℤ) * 2 ^ (e + 1) := by
        rw [← zpow_add₀ two_ne_zero, ← zpow_add₀ two_ne_zero]
        congr 1
        omega
    _ ≤ n * 2 ^ f :=
        mul_le_mul (by exact_mod_cast leading) (zpow_le_zpow_right₀ one_le_two less)
          (two_zpow_pos _).le n.cast_nonneg

theorem Aligned.compare_eq (left : Aligned m e) (right : Aligned n f) :
    (compare e f).then (compare m n) = compare (m * 2 ^ e : ℚ) (n * 2 ^ f) := by
  rcases lt_trichotomy e f with less | rfl | greater
  · rw [compare_lt_iff_lt.mpr less, compare_lt_iff_lt.mpr (left.lt right less)]
    rfl
  · have scaled : compare (m * 2 ^ e : ℚ) (n * 2 ^ e) = compare m n := by
      rcases lt_trichotomy m n with less | rfl | greater
      · rw [compare_lt_iff_lt.mpr less]
        exact compare_lt_iff_lt.mpr
          (mul_lt_mul_of_pos_right (by exact_mod_cast less) (two_zpow_pos e))
      · simp
      · rw [compare_gt_iff_gt.mpr greater]
        exact compare_gt_iff_gt.mpr
          (mul_lt_mul_of_pos_right (by exact_mod_cast greater) (two_zpow_pos e))
    rw [scaled, compare_eq_iff_eq.mpr rfl]
    rfl
  · rw [compare_gt_iff_gt.mpr greater, compare_gt_iff_gt.mpr (right.lt left greater)]
    rfl

theorem Aligned.lt_limit (aligned : Aligned m e) (small : e ≤ 971) : (m * 2 ^ e : ℚ) < limit :=
  calc (m * 2 ^ e : ℚ)
      < 2 ^ (53 : ℤ) * 2 ^ e :=
        mul_lt_mul_of_pos_right (by exact_mod_cast aligned.short) (two_zpow_pos e)
    _ = 2 ^ (53 + e) := (zpow_add₀ two_ne_zero _ _).symm
    _ ≤ limit := zpow_le_zpow_right₀ one_le_two (by omega)

theorem Aligned.limit_le (aligned : Aligned m e) (large : 971 < e) : limit ≤ m * 2 ^ e := by
  have leading : 2 ^ 52 ≤ m := aligned.leading.resolve_right (by omega)
  calc limit ≤ 2 ^ (52 + e) := zpow_le_zpow_right₀ one_le_two (by omega)
    _ = 2 ^ (52 : ℤ) * 2 ^ e := zpow_add₀ two_ne_zero _ _
    _ ≤ m * 2 ^ e := mul_le_mul_of_nonneg_right (by exact_mod_cast leading) (two_zpow_pos e).le

theorem digits_pos (positive : 0 < m) (e : ℤ) : (0 : ℚ) < m * 2 ^ e :=
  mul_pos (by exact_mod_cast positive) (two_zpow_pos e)

@[simp] theorem abs_signed (s : Sign) (q : ℚ) : |signed s q| = |q| := by
  cases s
  · exact abs_neg q
  · rfl

/-- Nothing but an infinity stands at the limit. -/
theorem abs_valueOf_lt (s : Sign) (positive : 0 < m) (packable : Packable (.finite s m e positive)) :
    |valueOf (.finite s m e positive)| < limit := by
  rw [valueOf, abs_signed, abs_of_pos (digits_pos positive e)]
  exact packable.1.lt_limit packable.2

theorem compare_neg (a b : ℚ) : compare (-a) (-b) = (compare a b).swap := by
  rcases lt_trichotomy a b with less | rfl | greater
  · rw [compare_lt_iff_lt.mpr less, compare_gt_iff_gt.mpr (neg_lt_neg less)]
    rfl
  · simp
  · rw [compare_gt_iff_gt.mpr greater, compare_lt_iff_lt.mpr (neg_lt_neg greater)]
    rfl

theorem compare_valueOf {u v : UnpackedFloat} (left : Packable u) (right : Packable v)
    (number : u ≠ .notANumber) (other : v ≠ .notANumber) :
    u.compare v = some (compare (valueOf u) (valueOf v)) := by
  have far := limit_pos
  have lower {a b : ℚ} (less : a < b) : some Ordering.lt = some (compare a b) :=
    congrArg some (compare_lt_iff_lt.mpr less).symm
  have higher {a b : ℚ} (less : b < a) : some Ordering.gt = some (compare a b) :=
    congrArg some (compare_gt_iff_gt.mpr less).symm
  have level (a : ℚ) : some Ordering.eq = some (compare a a) :=
    congrArg some (compare_eq_iff_eq.mpr rfl).symm
  cases u with
  | notANumber => exact absurd rfl number
  | infinity s =>
      cases v with
      | notANumber => exact absurd rfl other
      | infinity t =>
          cases s <;> cases t
          · exact level _
          · exact lower ((neg_neg_of_pos far).trans far)
          · exact higher ((neg_neg_of_pos far).trans far)
          · exact level _
      | zero t =>
          cases s
          · exact lower (neg_neg_of_pos far)
          · exact higher far
      | finite t n f positive =>
          have near := abs_lt.mp (abs_valueOf_lt t positive right)
          cases s
          · exact lower near.1
          · exact higher near.2
  | zero s =>
      cases v with
      | notANumber => exact absurd rfl other
      | infinity t =>
          cases t
          · exact higher (neg_neg_of_pos far)
          · exact lower far
      | zero t => exact level 0
      | finite t n f positive =>
          cases t
          · exact higher (neg_neg_of_pos (digits_pos positive f))
          · exact lower (digits_pos positive f)
  | finite s m e positive =>
      cases v with
      | notANumber => exact absurd rfl other
      | infinity t =>
          have near := abs_lt.mp (abs_valueOf_lt s positive left)
          cases t
          · exact higher near.1
          · exact lower near.2
      | zero t =>
          cases s
          · exact lower (neg_neg_of_pos (digits_pos positive e))
          · exact higher (digits_pos positive e)
      | finite t n f second =>
          have below := neg_neg_of_pos (digits_pos positive e)
          have above := digits_pos second f
          cases s <;> cases t
          · rw [valueOf, valueOf, signed, signed, compare_neg, ← left.1.compare_eq right.1]
            rfl
          · exact lower (below.trans above)
          · exact higher ((neg_neg_of_pos above).trans (neg_neg_iff_pos.mp below))
          · rw [valueOf, valueOf, signed, signed, ← left.1.compare_eq right.1]
            rfl

/-! ## Packing -/

theorem toNat_one_append (v : BitVec 52) : (1#1 ++ v).toNat = 2 ^ 52 + v.toNat := by
  rw [BitVec.toNat_append, ← Nat.shiftLeft_add_eq_or_of_lt v.isLt]
  rfl

/-- What is read from the bits of a double. -/
theorem packable_unpack (x : Float.Model) : Packable x.unpack := by
  let digits : BitVec 52 := @unpackMantissa .binary64 x.toBits.toBitVec
  let place : BitVec 11 := @unpackExponent .binary64 x.toBits.toBitVec
  have short : digits.toNat < 2 ^ 52 := digits.isLt
  have range : place.toNat < 2 ^ 11 := place.isLt
  unfold Float.Model.unpack unpack
  dsimp only
  split
  · split <;> trivial
  · rename_i finite
    have last : place.toNat ≠ 2047 := fun last => finite (BitVec.eq_of_toNat_eq last)
    split
    · rename_i least
      split
      · trivial
      · have zero : place.toNat = 0 := congrArg BitVec.toNat least
        change Aligned digits.toNat (place.toNat - 1075 + 1) ∧ (place.toNat - 1075 + 1 : ℤ) ≤ 971
        exact ⟨⟨by omega, by omega, .inr (by omega)⟩, by omega⟩
    · rename_i leading
      have first : place.toNat ≠ 0 := fun first => leading (BitVec.eq_of_toNat_eq first)
      have whole : (1#1 ++ digits).toNat = 2 ^ 52 + digits.toNat := toNat_one_append digits
      change Aligned (1#1 ++ digits).toNat (place.toNat - 1075) ∧ (place.toNat - 1075 : ℤ) ≤ 971
      rw [whole]
      exact ⟨⟨by omega, by omega, .inl (by omega)⟩, by omega⟩

theorem unpack_leading (s : Sign) {place : BitVec 11} {digits : BitVec 52} (first : place ≠ 0#11)
    (last : place ≠ -1#11) (positive : 0 < m) (number : 2 ^ 52 + digits.toNat = m)
    (exponent : (place.toNat - 1075 : ℤ) = e) :
    unpack .binary64 (packComponents .binary64 s place digits) = .finite s m e positive := by
  subst number exponent
  unfold unpack
  simp only [unpackMantissa_packComponents, unpackExponent_packComponents,
    unpackSign_packComponents, Sign.ofBitVec_toBitVec]
  rw [if_neg last, if_neg first]
  simp only [toNat_one_append]
  rfl

theorem unpack_least (s : Sign) {digits : BitVec 52} (positive : 0 < m) (number : digits.toNat = m) :
    unpack .binary64 (packComponents .binary64 s 0#11 digits) = .finite s m (-1074) positive := by
  subst number
  have some : digits ≠ 0#52 := fun none => positive.ne' (congrArg BitVec.toNat none)
  have least : (0#11) ≠ -1#11 := by decide
  unfold unpack
  simp only [unpackMantissa_packComponents, unpackExponent_packComponents,
    unpackSign_packComponents, Sign.ofBitVec_toBitVec]
  change (if 0#11 = -1#11 then _ else _) = _
  rw [if_neg least]
  simp only [if_true, some, dite_false]
  rfl

/-- The bits of a number that a double has are read as that number. -/
theorem unpack_pack (s : Sign) (positive : 0 < m) (aligned : Aligned m e) (small : e ≤ 971) :
    (Float.Model.pack (.finite s m e positive)).unpack = .finite s m e positive := by
  have fine := aligned.fine
  have short := aligned.short
  have fits : ¬ 2 ^ 11 ≤ (e + 1023 + 52).toNat + 1 := by omega
  have packed : (Float.Model.pack (.finite s m e positive)).toBits.toBitVec =
      if m.log2 + 1 = 53 then
        packComponents .binary64 s (.ofNat 11 (e + 1023 + 52).toNat) (.ofNat 52 m)
      else packComponents .binary64 s 0#11 (.ofNat 52 m) := if_neg fits
  have digits : (BitVec.ofNat 52 m).toNat = m % 2 ^ 52 := BitVec.toNat_ofNat m 52
  unfold Float.Model.unpack
  rw [packed]
  -- the first digit is left out of the bits, unless the exponent is the least
  by_cases leading : 2 ^ 52 ≤ m
  · have log : m.log2 = 52 := (Nat.log2_eq_iff positive.ne').mpr ⟨leading, short⟩
    have place : (BitVec.ofNat 11 (e + 1023 + 52).toNat).toNat = (e + 1075).toNat := by
      rw [BitVec.toNat_ofNat]
      omega
    have first : BitVec.ofNat 11 (e + 1023 + 52).toNat ≠ 0#11 := by
      intro zero
      rw [zero] at place
      change 0 = _ at place
      omega
    have last : BitVec.ofNat 11 (e + 1023 + 52).toNat ≠ -1#11 := by
      intro ones
      rw [ones] at place
      change 2047 = _ at place
      omega
    rw [if_pos (by omega)]
    exact unpack_leading s first last positive (by omega) (by omega)
  · have log : m.log2 < 52 := (Nat.log2_lt positive.ne').mpr (by omega)
    obtain rfl := aligned.leading.resolve_left leading
    rw [if_neg (by omega)]
    exact unpack_least s positive (by omega)

/-- A number with its digits in their places, whatever its exponent. -/
def Whole : UnpackedFloat → Prop
  | .zero _ => True
  | .finite _ m e _ => Aligned m e
  | _ => False

/-- A number that is beyond all doubles is packed as an infinity. -/
theorem unpack_pack_large (s : Sign) (positive : 0 < m) (large : 971 < e) :
    (Float.Model.pack (.finite s m e positive)).unpack = .infinity s := by
  have beyond : 2 ^ 11 ≤ (e + 1023 + 52).toNat + 1 := by omega
  have packed : (Float.Model.pack (.finite s m e positive)).toBits.toBitVec =
      packedInfinity .binary64 s := if_pos beyond
  unfold Float.Model.unpack
  rw [packed]
  cases s <;> rfl

theorem valueOf_pack {u : UnpackedFloat} (whole : Whole u) :
    (Float.Model.pack u).unpack ≠ .notANumber ∧
      valueOf (Float.Model.pack u).unpack = clamp (valueOf u) := by
  cases u with
  | zero s =>
      have same : (Float.Model.pack (.zero s)).unpack = .zero s := by cases s <;> rfl
      rw [same]
      exact ⟨nofun, (clamp_of_abs_le (abs_zero.trans_le limit_pos.le)).symm⟩
  | finite s m e positive =>
      by_cases small : e ≤ 971
      · rw [unpack_pack s positive whole small]
        exact ⟨nofun, (clamp_of_abs_le (abs_valueOf_lt s positive ⟨whole, small⟩).le).symm⟩
      · have beyond := Aligned.limit_le whole (not_le.mp small)
        rw [unpack_pack_large s positive (not_le.mp small)]
        refine ⟨nofun, ?_⟩
        cases s
        · exact (clamp_of_le_neg_limit (neg_le_neg beyond)).symm
        · exact (clamp_of_limit_le beyond).symm
  | _ => cases whole

end PositionMap.Number
