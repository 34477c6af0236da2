import PositionMap.Proofs.Number.Operations

/-! # Arithmetic of doubles

The value of a double, the order of doubles, and the operations on them: the result of each is the
rounded value of the exact one, which may be infinite but is never missing as long as both sides are
finite. All bounds on what is computed with doubles are read off `Rounds.between`.
-/

namespace PositionMap.Number

open Float.Model (UnpackedFloat)
open Float.Model.UnpackedFloat

def value (x : Float) : ℚ :=
  valueOf x.toModel.unpack

variable {x y z : Float} {q r : ℚ}

theorem isNaN_eq_false_iff : x.isNaN = false ↔ x.toModel.unpack ≠ .notANumber := by
  change x.toModel.unpack.isNaN = false ↔ _
  rw [← Bool.not_eq_true, UnpackedFloat.isNaN_iff]

theorem whole_of_isFinite (finite : x.isFinite = true) : Whole x.toModel.unpack := by
  have packable := packable_unpack x.toModel
  change x.toModel.unpack.isFinite = true at finite
  cases unpacked : x.toModel.unpack with
  | zero s => trivial
  | finite s m e positive => exact (unpacked ▸ packable).1
  | _ => simp [unpacked, UnpackedFloat.isFinite] at finite

theorem isNaN_of_isFinite (finite : x.isFinite = true) : x.isNaN = false := by
  rw [isNaN_eq_false_iff]
  intro missing
  have whole := whole_of_isFinite finite
  rw [missing] at whole
  exact whole

/-! ## Order -/

theorem compare_eq (number : x.isNaN = false) (other : y.isNaN = false) :
    x.toModel.unpack.compare y.toModel.unpack = some (compare (value x) (value y)) :=
  compare_valueOf (packable_unpack _) (packable_unpack _) (isNaN_eq_false_iff.mp number)
    (isNaN_eq_false_iff.mp other)

theorem compare_isNaN (missing : ¬ (x.isNaN = false ∧ y.isNaN = false)) :
    x.toModel.unpack.compare y.toModel.unpack = none := by
  rw [isNaN_eq_false_iff, isNaN_eq_false_iff, not_and_or, not_not, not_not] at missing
  obtain left | right := missing
  · rw [left]
    rfl
  · rw [right]
    cases x.toModel.unpack <;> rfl

theorem lt_iff : x < y ↔ x.isNaN = false ∧ y.isNaN = false ∧ value x < value y := by
  have less : x < y ↔ x.toModel.unpack.compare y.toModel.unpack = some .lt := by
    change decide ((x.toModel.unpack.compare y.toModel.unpack == some .lt) = true) = true ↔ _
    rw [decide_eq_true_iff, beq_iff_eq]
  rw [less, ← and_assoc]
  by_cases numbers : x.isNaN = false ∧ y.isNaN = false
  · rw [compare_eq numbers.1 numbers.2, Option.some_inj, compare_lt_iff_lt]
    exact (and_iff_right numbers).symm
  · rw [compare_isNaN numbers]
    exact iff_of_false nofun fun ordered => numbers ordered.1

theorem le_iff : x ≤ y ↔ x.isNaN = false ∧ y.isNaN = false ∧ value x ≤ value y := by
  have atMost : x ≤ y ↔ (x.toModel.unpack.compare y.toModel.unpack).any (·.isLE) = true := by
    change decide ((x.toModel.unpack.compare y.toModel.unpack).any (·.isLE) = true) = true ↔ _
    rw [decide_eq_true_iff]
  rw [atMost, ← and_assoc]
  by_cases numbers : x.isNaN = false ∧ y.isNaN = false
  · rw [compare_eq numbers.1 numbers.2, Option.any_some, and_iff_right numbers,
      ← Ordering.ne_gt_iff_isLE, compare_gt_iff_gt, not_lt]
  · rw [compare_isNaN numbers]
    exact iff_of_false Bool.false_ne_true fun ordered => numbers ordered.1

theorem beq_iff :
    (x == y) = true ↔ x.isNaN = false ∧ y.isNaN = false ∧ value x = value y := by
  have equal : (x == y) = true ↔ x.toModel.unpack.compare y.toModel.unpack = some .eq := by
    change (x.toModel.unpack.compare y.toModel.unpack == some .eq) = true ↔ _
    rw [beq_iff_eq]
  rw [equal, ← and_assoc]
  by_cases numbers : x.isNaN = false ∧ y.isNaN = false
  · rw [compare_eq numbers.1 numbers.2, Option.some_inj, compare_eq_iff_eq]
    exact (and_iff_right numbers).symm
  · rw [compare_isNaN numbers]
    exact iff_of_false nofun fun same => numbers same.1

theorem lt_iff_of_isFinite (left : x.isFinite = true) (right : y.isFinite = true) :
    x < y ↔ value x < value y :=
  lt_iff.trans ((and_iff_right (isNaN_of_isFinite left)).trans
    (and_iff_right (isNaN_of_isFinite right)))

theorem le_iff_of_isFinite (left : x.isFinite = true) (right : y.isFinite = true) :
    x ≤ y ↔ value x ≤ value y :=
  le_iff.trans ((and_iff_right (isNaN_of_isFinite left)).trans
    (and_iff_right (isNaN_of_isFinite right)))

theorem le_trans (first : x ≤ y) (second : y ≤ z) : x ≤ z := by
  rw [le_iff] at first second ⊢
  exact ⟨first.1, second.2.1, first.2.2.trans second.2.2⟩

theorem le_of_lt (less : x < y) : x ≤ y := by
  rw [lt_iff] at less
  exact le_iff.mpr ⟨less.1, less.2.1, less.2.2.le⟩

theorem lt_of_le_lt (le : x ≤ y) (less : y < z) : x < z := by
  rw [le_iff] at le
  rw [lt_iff] at less ⊢
  exact ⟨le.1, less.2.1, le.2.2.trans_lt less.2.2⟩

theorem beq_congr (equal : (x == y) = true) (z : Float) : (x == z) = (y == z) := by
  obtain ⟨number, other, same⟩ := beq_iff.mp equal
  rw [Bool.eq_iff_iff, beq_iff, beq_iff, number, other, same]

theorem le_self (finite : x.isFinite = true) : x ≤ x :=
  le_iff.mpr ⟨isNaN_of_isFinite finite, isNaN_of_isFinite finite, le_rfl⟩

theorem value_lesser (left : x.isFinite = true) (right : y.isFinite = true) :
    value (lesser x y) = min (value x) (value y) := by
  rw [lesser, if_neg (by rw [isNaN_of_isFinite left]; decide)]
  split
  case isTrue less => exact (min_eq_right ((lt_iff_of_isFinite right left).mp less).le).symm
  case isFalse least =>
    exact (min_eq_left (not_lt.mp (mt (lt_iff_of_isFinite right left).mpr least))).symm

/-- Whatever is asked for, a length of at least one comes out, also when it is missing. -/
theorem one_le_greater (x : Float) : 1 ≤ greater x 1 := by
  unfold greater
  split_ifs with missing less
  · exact le_self rfl
  · exact le_self rfl
  · have number : x.isNaN = false := Bool.eq_false_iff.mpr missing
    exact le_iff.mpr ⟨rfl, number, not_lt.mp fun below => less (lt_iff.mpr ⟨number, rfl, below⟩)⟩

/-! ## Operations -/

/-- A double is what is left of a number when it is rounded. -/
structure Rounds (z : Float) (q : ℚ) : Prop where
  number : z.isNaN = false
  value_eq : value z = rounded q

theorem Trims.rounds {u : UnpackedFloat} (trims : Trims u q) : Rounds ⟨.pack u⟩ q := by
  obtain ⟨number, value⟩ := valueOf_pack trims.whole
  rw [trims.value] at value
  exact ⟨isNaN_eq_false_iff.mpr number, value⟩

theorem rounds_add (left : x.isFinite = true) (right : y.isFinite = true) :
    Rounds (x + y) (value x + value y) :=
  (trims_add (whole_of_isFinite left) (whole_of_isFinite right)).rounds

theorem rounds_sub (left : x.isFinite = true) (right : y.isFinite = true) :
    Rounds (x - y) (value x - value y) :=
  (trims_sub (whole_of_isFinite left) (whole_of_isFinite right)).rounds

theorem rounds_mul (left : x.isFinite = true) (right : y.isFinite = true) :
    Rounds (x * y) (value x * value y) :=
  (trims_mul (whole_of_isFinite left) (whole_of_isFinite right)).rounds

theorem rounds_div (left : x.isFinite = true) (right : y.isFinite = true)
    (nonzero : value y ≠ 0) : Rounds (x / y) (value x / value y) :=
  (trims_div (whole_of_isFinite left) (whole_of_isFinite right) nonzero).rounds

theorem sub_le_sub_of_le (left : x.isFinite = true) (right : y.isFinite = true)
    (whole : z.isFinite = true) (le : x ≤ y) : z - y ≤ z - x := by
  have more := rounds_sub whole left
  have less := rounds_sub whole right
  have values := (le_iff.mp le).2.2
  rw [le_iff, less.value_eq, more.value_eq]
  exact ⟨less.number, more.number, rounded_mono (by linarith)⟩

theorem isFinite_iff : x.isFinite = true ↔ x.isNaN = false ∧ |value x| < limit := by
  have packable := packable_unpack x.toModel
  rw [isNaN_eq_false_iff]
  change x.toModel.unpack.isFinite = true ↔ _ ∧ |valueOf x.toModel.unpack| < limit
  cases unpacked : x.toModel.unpack with
  | notANumber => simp [UnpackedFloat.isFinite]
  | infinity s => simp [UnpackedFloat.isFinite, valueOf, abs_of_pos limit_pos]
  | zero s => simp [UnpackedFloat.isFinite, valueOf, limit_pos]
  | finite s m e positive =>
      rw [unpacked] at packable
      simp [UnpackedFloat.isFinite, abs_valueOf_lt s positive packable]

theorem isFinite_of_between (left : x.isFinite = true) (right : z.isFinite = true) (above : x ≤ y)
    (below : y ≤ z) : y.isFinite = true := by
  obtain ⟨-, number, least⟩ := le_iff.mp above
  have most := (le_iff.mp below).2.2
  have low := (abs_lt.mp (isFinite_iff.mp left).2).1
  have high := (abs_lt.mp (isFinite_iff.mp right).2).2
  exact isFinite_iff.mpr ⟨number, abs_lt.mpr ⟨low.trans_le least, most.trans_lt high⟩⟩

theorem isDouble_value (finite : x.isFinite = true) : IsDouble (value x) := by
  have packable := packable_unpack x.toModel
  have whole := whole_of_isFinite finite
  unfold value
  cases unpacked : x.toModel.unpack with
  | zero s => exact .zero
  | finite s m e positive =>
      rw [unpacked] at packable
      have digits : IsDouble (m * 2 ^ e) :=
        ⟨m, e, packable.1.abs_lt, packable.1.fine, packable.2, by rw [Int.cast_natCast]⟩
      cases s
      · exact digits.neg
      · exact digits
  | _ => simp [unpacked, Whole] at whole

namespace Rounds

/-- A number between two doubles stays between them when it is rounded. -/
theorem between {a b : ℚ} (rounds : Rounds z q) (low : IsDouble a) (high : IsDouble b)
    (above : a ≤ q) (below : q ≤ b) : z.isFinite = true ∧ a ≤ value z ∧ value z ≤ b := by
  rw [isFinite_iff, rounds.value_eq]
  have least := low.le_rounded above
  have most := high.rounded_le below
  have bounds : -limit < a ∧ b < limit :=
    ⟨(abs_lt.mp low.abs_lt_limit).1, (abs_lt.mp high.abs_lt_limit).2⟩
  have within := abs_lt.mpr ⟨bounds.1.trans_le least, most.trans_lt bounds.2⟩
  exact ⟨⟨rounds.number, within⟩, least, most⟩

/-- Nothing is lost of a number that is a double. -/
theorem exact (rounds : Rounds z q) (double : IsDouble q) : z.isFinite = true ∧ value z = q := by
  obtain ⟨finite, least, most⟩ := rounds.between double double le_rfl le_rfl
  exact ⟨finite, most.antisymm least⟩

end Rounds

theorem sub_nonneg_of_le (left : x.isFinite = true) (right : y.isFinite = true) (le : x ≤ y) :
    0 ≤ y - x := by
  have rest := rounds_sub right left
  have values := (le_iff.mp le).2.2
  rw [le_iff, rest.value_eq]
  exact ⟨rfl, rest.number, IsDouble.zero.le_rounded (by linarith)⟩

/-! ## Finite results -/

/-- What is not finite is not when it is packed. -/
theorem isFinite_of_pack {u : UnpackedFloat} (finite : (Float.Model.pack u).unpack.isFinite = true) :
    u.isFinite = true := by
  cases u with
  | notANumber => cases finite
  | infinity s => cases s <;> cases finite
  | zero s => rfl
  | finite s m e positive => rfl

/-- The results of an operation are finite only if both sides are. -/
def Strict (op : UnpackedFloat → UnpackedFloat → UnpackedFloat) : Prop :=
  ∀ u v, (op u v).isFinite = true → u.isFinite = true ∧ v.isFinite = true

theorem Strict.sides {op : UnpackedFloat → UnpackedFloat → UnpackedFloat} (strict : Strict op)
    (finite : Float.isFinite ⟨.pack (op x.toModel.unpack y.toModel.unpack)⟩ = true) :
    x.isFinite = true ∧ y.isFinite = true :=
  strict _ _ (isFinite_of_pack finite)

theorem strict_add : Strict (add .binary64) := by
  intro u v finite
  cases u <;> cases v
  case infinity.infinity s t => cases s <;> cases t <;> cases finite
  all_goals first | exact ⟨rfl, rfl⟩ | cases finite

theorem strict_sub : Strict (sub .binary64) := by
  intro u v finite
  cases u <;> cases v
  case infinity.infinity s t => cases s <;> cases t <;> cases finite
  all_goals first | exact ⟨rfl, rfl⟩ | cases finite

theorem strict_mul : Strict (mul .binary64) := by
  intro u v finite
  cases u <;> cases v
  all_goals first | exact ⟨rfl, rfl⟩ | cases finite

theorem isFinite_of_add (finite : (x + y).isFinite = true) :
    x.isFinite = true ∧ y.isFinite = true :=
  strict_add.sides finite

theorem isFinite_of_sub (finite : (x - y).isFinite = true) :
    x.isFinite = true ∧ y.isFinite = true :=
  strict_sub.sides finite

theorem isFinite_of_mul (finite : (x * y).isFinite = true) :
    x.isFinite = true ∧ y.isFinite = true :=
  strict_mul.sides finite

/-- A quotient may be finite though its divisor is not. -/
theorem isFinite_of_div (finite : (x / y).isFinite = true) : x.isFinite = true := by
  have quotient : (div .binary64 x.toModel.unpack y.toModel.unpack).isFinite = true :=
    isFinite_of_pack finite
  change x.toModel.unpack.isFinite = true
  revert quotient
  cases x.toModel.unpack <;> cases y.toModel.unpack <;> intro quotient
  all_goals first | rfl | cases quotient

/-! ## Magnitude -/

theorem valueOf_abs (u : UnpackedFloat) : valueOf u.abs = |valueOf u| := by
  cases u with
  | notANumber => exact abs_zero.symm
  | infinity s => exact ((abs_signed s limit).trans (abs_of_pos limit_pos)).symm
  | zero s => exact abs_zero.symm
  | finite s m e positive =>
      exact ((abs_signed s _).trans (abs_of_pos (digits_pos positive e))).symm

theorem unpack_abs (x : Float) : x.abs.toModel.unpack = x.toModel.unpack.abs := by
  have packable := packable_unpack x.toModel
  change (Float.Model.pack x.toModel.unpack.abs).unpack = _
  cases unpacked : x.toModel.unpack with
  | finite s m e positive =>
      rw [unpacked] at packable
      exact unpack_pack .positive positive packable.1 packable.2
  | notANumber => rfl
  | infinity s => exact (rfl : (Float.Model.pack (.infinity .positive)).unpack = .infinity .positive)
  | zero s => exact (rfl : (Float.Model.pack (.zero .positive)).unpack = .zero .positive)

theorem isFinite_of_abs_le (finite : y.isFinite = true) (le : x.abs ≤ y) :
    x.isFinite = true ∧ |value x| ≤ value y := by
  obtain ⟨number, -, bound⟩ := le_iff.mp le
  have magnitude : value x.abs = |value x| := by rw [value, unpack_abs, valueOf_abs, value]
  rw [magnitude] at bound
  have below : value y < limit := (le_abs_self _).trans_lt (isFinite_iff.mp finite).2
  refine ⟨isFinite_iff.mpr ⟨?_, bound.trans_lt below⟩, bound⟩
  rw [isNaN_eq_false_iff, unpack_abs] at number
  rw [isNaN_eq_false_iff]
  intro missing
  exact number (by rw [missing]; rfl)

/-! ## Literals -/

theorem value_of_unpack {m : ℕ} {e : ℤ} {positive : 0 < m}
    (unpacked : x.toModel.unpack = .finite .positive m e positive) : value x = m * 2 ^ e := by
  rw [value, unpacked]
  rfl

theorem value_one : value 1 = 1 := by
  have unpacked : (1 : Float).toModel.unpack = .finite .positive (2 ^ 52) (-52) (by decide) := rfl
  rw [value_of_unpack unpacked]
  norm_num

theorem value_half : value 0.5 = 1 / 2 := by
  have unpacked : (0.5 : Float).toModel.unpack = .finite .positive (2 ^ 52) (-53) (by decide) := rfl
  rw [value_of_unpack unpacked]
  norm_num

theorem value_quarter : value 0.25 = 1 / 4 := by
  have unpacked : (0.25 : Float).toModel.unpack = .finite .positive (2 ^ 52) (-54) (by decide) := rfl
  rw [value_of_unpack unpacked]
  norm_num

theorem rounds_toFloat (n : UInt64) : Rounds n.toFloat n.toNat := by
  have digits := (trims_normalize n.toNat 0 .positive).rounds
  rw [zpow_zero, mul_one, Int.cast_natCast] at digits
  exact digits

theorem rounds_toFloat32 (n : UInt32) : Rounds n.toFloat n.toNat := by
  have digits := (trims_normalize n.toNat 0 .positive).rounds
  rw [zpow_zero, mul_one, Int.cast_natCast] at digits
  exact digits

/-- Counts of 32 binary digits are doubles. -/
theorem value_toFloat32 (n : UInt32) : n.toFloat.isFinite = true ∧ value n.toFloat = n.toNat := by
  have short : |(n.toNat : ℤ)| < 2 ^ 53 := by
    have bits := n.toNat_lt
    rw [Nat.abs_cast]
    omega
  exact (rounds_toFloat32 n).exact (by exact_mod_cast IsDouble.intCast short)

/-- Counts of 53 binary digits are doubles. -/
theorem value_ofNat {n : ℕ} (short : n < 2 ^ 53) :
    (Float.ofNat n).isFinite = true ∧ value (Float.ofNat n) = n := by
  have double : IsDouble n := by
    exact_mod_cast IsDouble.intCast (n := n) (by rw [Nat.abs_cast]; exact_mod_cast short)
  have whole : n.toUInt64.toNat = n := by
    rw [UInt64.toNat_ofNat']
    omega
  have converted := rounds_toFloat n.toUInt64
  rw [whole] at converted
  obtain ⟨finite, value⟩ := converted.exact double
  have unit : Float.exactlyRepresentablePowersOfTen[0] = 1 := rfl
  have same : Float.ofNat n = n.toUInt64.toFloat * Float.exactlyRepresentablePowersOfTen[0] :=
    dif_pos (And.intro short (by decide))
  have product := rounds_mul finite (y := 1) rfl
  rw [value, value_one, mul_one] at product
  rw [same, unit]
  exact product.exact double

theorem rounds_half (finite : x.isFinite = true) : Rounds (x / 2) (value x / 2) := by
  obtain ⟨known, two⟩ := value_ofNat (n := 2) (by decide)
  have halved := rounds_div finite known (by rw [two]; norm_num)
  rw [two] at halved
  exact halved

end PositionMap.Number
