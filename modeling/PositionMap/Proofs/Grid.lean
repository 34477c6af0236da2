import PositionMap.Proofs.Number.Arithmetic
import PositionMap.View

/-! # The distances of the grid lines

The grid lines are at the multiples of the spacing, from zero up to the scale, as long as there are at
most a thousand of them. All spacings are whole numbers of quarters, so the multiples are computed
without any rounding.
-/

namespace PositionMap

open Number

namespace View

variable {v : View}

theorem gridSpacing_cases (v : View) :
    (v.scale ≤ 1 ∧ v.gridSpacing = 0.25) ∨ (v.scale ≤ 2 ∧ v.gridSpacing = 0.5) ∨
      (v.scale ≤ 5 ∧ v.gridSpacing = 1) ∨ v.gridSpacing = 5 := by
  unfold gridSpacing spacingOf gridSteps coarseSpacing
  by_cases first : v.scale ≤ 1
  · exact .inl ⟨first, by simp [first]⟩
  by_cases second : v.scale ≤ 2
  · exact .inr (.inl ⟨second, by simp [first, second]⟩)
  by_cases third : v.scale ≤ 5
  · exact .inr (.inr (.inl ⟨third, by simp [first, second, third]⟩))
  · exact .inr (.inr (.inr (by simp [first, second, third])))

/-- The spacing in quarters of a meter. Only small scales have one that is below 5 m. -/
theorem gridSpacing_quarters (v : View) :
    ∃ quarters : ℕ, 0 < quarters ∧ quarters ≤ 20 ∧ v.gridSpacing.isFinite = true ∧
      value v.gridSpacing = quarters / 4 ∧ (quarters = 20 ∨ v.scale ≤ 5) := by
  obtain ⟨small, spacing⟩ | ⟨small, spacing⟩ | ⟨small, spacing⟩ | spacing := v.gridSpacing_cases <;>
    rw [spacing]
  · refine ⟨1, by decide, by decide, rfl, ?_, .inr (le_trans small (by decide +kernel))⟩
    rw [value_quarter, Nat.cast_one]
  · refine ⟨2, by decide, by decide, rfl, ?_, .inr (le_trans small (by decide +kernel))⟩
    rw [value_half]
    norm_num
  · refine ⟨4, by decide, by decide, rfl, ?_, .inr small⟩
    rw [value_one]
    norm_num
  · obtain ⟨finite, five⟩ := value_ofNat (n := 5) (by decide)
    exact ⟨20, by decide, by decide, finite, five.trans (by norm_num), .inl rfl⟩

theorem gridSpacing_pos (v : View) : 0 < value v.gridSpacing := by
  obtain ⟨quarters, some, -, -, spacing, -⟩ := v.gridSpacing_quarters
  rw [spacing]
  positivity

/-! ## Multiples -/

theorem value_multiple (v : View) {i : ℕ} (few : i < maxGridLines) :
    (Float.ofNat i * v.gridSpacing).isFinite = true ∧
      value (.ofNat i * v.gridSpacing) = i * value v.gridSpacing := by
  obtain ⟨quarters, -, small, finite, spacing, -⟩ := v.gridSpacing_quarters
  obtain ⟨whole, count⟩ := value_ofNat (n := i) (few.trans (by decide))
  have product := rounds_mul whole finite
  rw [count] at product
  -- there are few quarters of a meter in it
  refine product.exact ⟨i * quarters, -2, ?_, by decide, by decide, ?_⟩
  · have bound : i * quarters < 1000 * 20 + 1 := Nat.lt_succ_of_le (Nat.mul_le_mul few.le small)
    rw [← Nat.cast_mul, Nat.abs_cast]
    exact_mod_cast bound.trans (by decide)
  · rw [spacing]
    norm_num
    ring

/-- How many grid lines there are on one side of an axis: one for each multiple of the spacing that is
not above the scale, but no more than the highest number. -/
def lineCount (v : View) : ℕ :=
  min maxGridLines (⌊value v.scale / value v.gridSpacing⌋₊ + 1)

theorem lineCount_pos (v : View) : 0 < v.lineCount :=
  lt_min (by decide) (Nat.succ_pos _)

theorem lt_lineCount_iff (length : 0 ≤ value v.scale) {i : ℕ} :
    i < v.lineCount ↔ i < maxGridLines ∧ i * value v.gridSpacing ≤ value v.scale := by
  rw [lineCount, lt_min_iff, Nat.lt_succ_iff,
    Nat.le_floor_iff (div_nonneg length v.gridSpacing_pos.le), le_div_iff₀ v.gridSpacing_pos]

/-- No multiple is left out before there are as many as there may be. -/
theorem lt_or_full_of_le (length : 0 ≤ value v.scale) {i : ℕ}
    (le : i * value v.gridSpacing ≤ value v.scale) : i < v.lineCount ∨ v.lineCount = maxGridLines := by
  rw [lt_lineCount_iff length]
  by_cases few : i < maxGridLines
  · exact .inl ⟨few, le⟩
  have steps : i ≤ ⌊value v.scale / value v.gridSpacing⌋₊ :=
    Nat.le_floor ((le_div_iff₀ v.gridSpacing_pos).mpr le)
  exact .inr (min_eq_left ((not_lt.mp few).trans (steps.trans (Nat.le_succ _))))

theorem on_grid_iff (finite : v.scale.isFinite = true) {i : ℕ} (few : i < maxGridLines) :
    (!decide (v.scale < .ofNat i * v.gridSpacing)) = true ↔
      i * value v.gridSpacing ≤ value v.scale := by
  obtain ⟨whole, product⟩ := v.value_multiple few
  rw [Bool.not_eq_true', decide_eq_false_iff_not, lt_iff_of_isFinite finite whole, product, not_lt]

/-- Of the elements of a list that is numbered, those before the first that fails. -/
theorem takeWhile_map_range {α : Type} (f : ℕ → α) (p : α → Bool) {n all : ℕ} (le : n ≤ all)
    (before : ∀ i < n, p (f i) = true) (stop : n < all → p (f n) = false) :
    ((List.range all).map f).takeWhile p = (List.range n).map f := by
  obtain ⟨more, rfl⟩ := Nat.exists_eq_add_of_le le
  rw [List.range_add, List.map_append, List.takeWhile_append_of_pos (by simpa using before)]
  cases more with
  | zero => simp
  | succ more => simp [List.range_succ_eq_map, stop]

theorem gridOffsets_eq (finite : v.scale.isFinite = true) (length : 0 ≤ v.scale) :
    v.gridOffsets = (List.range v.lineCount).map fun i => .ofNat i * v.gridSpacing := by
  have nonneg : 0 ≤ value v.scale := (le_iff.mp length).2.2
  unfold gridOffsets
  rw [if_pos (by simp [finite, length])]
  refine takeWhile_map_range _ _ (min_le_left _ _) (fun i few => ?_) (fun more => ?_)
  · obtain ⟨few, le⟩ := (lt_lineCount_iff nonneg).mp few
    exact (on_grid_iff finite few).mpr le
  · rw [← Bool.not_eq_true, on_grid_iff finite more]
    exact fun le => lt_irrefl _ ((lt_lineCount_iff nonneg).mpr ⟨more, le⟩)

theorem gridOffsets_of_not_length (other : ¬ (v.scale.isFinite = true ∧ 0 ≤ v.scale)) :
    v.gridOffsets = [] := by
  unfold gridOffsets
  rw [if_neg (by simpa using other)]

theorem map_value_gridOffsets (finite : v.scale.isFinite = true) (length : 0 ≤ v.scale) :
    v.gridOffsets.map value = (List.range v.lineCount).map fun i : ℕ => i * value v.gridSpacing := by
  rw [gridOffsets_eq finite length, List.map_map]
  refine List.map_congr_left fun i member => ?_
  have few : i < maxGridLines := (List.mem_range.mp member).trans_le (min_le_left _ _)
  exact (v.value_multiple few).2

theorem length_gridOffsets (finite : v.scale.isFinite = true) (length : 0 ≤ v.scale) :
    v.gridOffsets.length = v.lineCount := by
  rw [gridOffsets_eq finite length, List.length_map, List.length_range]

theorem head?_gridOffsets (finite : v.scale.isFinite = true) (length : 0 ≤ v.scale) :
    v.gridOffsets.head? = some 0 := by
  have zero : Float.ofNat 0 * v.gridSpacing = 0 := by
    obtain ⟨-, spacing⟩ | ⟨-, spacing⟩ | ⟨-, spacing⟩ | spacing := v.gridSpacing_cases <;>
      rw [spacing] <;> decide +kernel
  rw [gridOffsets_eq finite length, List.head?_map, List.head?_range,
    if_neg v.lineCount_pos.ne', Option.map_some, zero]

theorem le_scale_of_mem_gridOffsets {offset : Float} (member : offset ∈ v.gridOffsets) :
    offset.isFinite = true ∧ 0 ≤ value offset ∧ value offset ≤ value v.scale := by
  by_cases valid : v.scale.isFinite = true ∧ 0 ≤ v.scale
  · rw [gridOffsets_eq valid.1 valid.2] at member
    obtain ⟨i, few, rfl⟩ := List.mem_map.mp member
    have nonneg : 0 ≤ value v.scale := (le_iff.mp valid.2).2.2
    obtain ⟨few, le⟩ := (lt_lineCount_iff nonneg).mp (List.mem_range.mp few)
    obtain ⟨finite, product⟩ := v.value_multiple few
    rw [product]
    exact ⟨finite, mul_nonneg i.cast_nonneg v.gridSpacing_pos.le, le⟩
  · rw [gridOffsets_of_not_length valid] at member
    cases member

theorem pairwise_gridOffsets (finite : v.scale.isFinite = true) (length : 0 ≤ v.scale) :
    v.gridOffsets.Pairwise (· < ·) := by
  have ordered : (v.gridOffsets.map value).Pairwise (· < ·) := by
    rw [map_value_gridOffsets finite length]
    refine List.pairwise_map.mpr (List.pairwise_lt_range.imp fun less => ?_)
    exact mul_lt_mul_of_pos_right (Nat.cast_lt.mpr less) v.gridSpacing_pos
  refine (List.pairwise_map.mp ordered).imp_of_mem fun first second less => ?_
  exact (lt_iff_of_isFinite (le_scale_of_mem_gridOffsets first).1
    (le_scale_of_mem_gridOffsets second).1).mpr less

/-- Only a scale of 4995 m or more has all the grid lines that there may be. -/
theorem le_scale_of_lineCount (finite : v.scale.isFinite = true) (length : 0 ≤ v.scale)
    (full : v.lineCount = maxGridLines) : 4995 ≤ v.scale := by
  have nonneg : 0 ≤ value v.scale := (le_iff.mp length).2.2
  obtain ⟨-, last⟩ := (lt_lineCount_iff (i := 999) nonneg).mp (by rw [full]; decide)
  obtain ⟨quarters, some, -, -, spacing, coarse⟩ := v.gridSpacing_quarters
  obtain ⟨known, bound⟩ := value_ofNat (n := 4995) (by decide)
  obtain rfl | small := coarse
  · refine (le_iff_of_isFinite known finite).mpr ?_
    rw [bound]
    rw [spacing] at last
    norm_num at last ⊢
    exact last
  · have few : value v.scale ≤ 5 := by
      obtain ⟨-, five⟩ := value_ofNat (n := 5) (by decide)
      exact (le_iff.mp small).2.2.trans_eq five
    have least : (1 : ℚ) ≤ quarters := by exact_mod_cast some
    rw [spacing] at last
    push_cast at last
    linarith

/-- A scale that is a length has a grid line at zero and at each multiple of the spacing up to the scale,
each computed exactly. Only scales of 4995 m or more have as many as there may be. Other scales have
none. -/
theorem gridOffsets_multiples (v : View) :
    (v.scale.isFinite = true → 0 ≤ v.scale →
      let spacing := value v.gridSpacing
      let count := min maxGridLines (⌊value v.scale / spacing⌋₊ + 1)
      v.gridOffsets = (List.range count).map (fun i => .ofNat i * v.gridSpacing) ∧
        v.gridOffsets.map value = (List.range count).map (fun i : ℕ => i * spacing) ∧
        0 < spacing ∧ v.gridOffsets.head? = some 0 ∧ v.gridOffsets.Pairwise (· < ·) ∧
        (∀ offset ∈ v.gridOffsets, offset.isFinite = true ∧ offset ≤ v.scale) ∧
        (∀ i : ℕ, i * spacing ≤ value v.scale →
          i < v.gridOffsets.length ∨ v.gridOffsets.length = maxGridLines) ∧
        (v.gridOffsets.length = maxGridLines → 4995 ≤ v.scale)) ∧
      (¬ (v.scale.isFinite = true ∧ 0 ≤ v.scale) → v.gridOffsets = []) ∧
      v.gridOffsets.length ≤ maxGridLines := by
  refine ⟨?_, gridOffsets_of_not_length, ?_⟩
  · intro finite length spacing count
    have nonneg : 0 ≤ value v.scale := (le_iff.mp length).2.2
    have lines : v.gridOffsets.length = v.lineCount := length_gridOffsets finite length
    refine ⟨gridOffsets_eq finite length, map_value_gridOffsets finite length, v.gridSpacing_pos,
      head?_gridOffsets finite length, pairwise_gridOffsets finite length, ?_, ?_, ?_⟩
    · intro offset member
      obtain ⟨whole, -, le⟩ := le_scale_of_mem_gridOffsets member
      exact ⟨whole, (le_iff_of_isFinite whole finite).mpr le⟩
    · intro i le
      rw [lines]
      exact lt_or_full_of_le nonneg le
    · intro full
      exact le_scale_of_lineCount finite length (lines ▸ full)
  · unfold gridOffsets
    split
    · exact (List.takeWhile_sublist _).length_le.trans_eq (by simp)
    · exact Nat.zero_le _

/-- The last line of a scale of 5 m is at the scale itself, and an infinite scale has no lines. -/
theorem gridOffsets_of_five :
    let v := unsized 5 1
    let endless := unsized (1 / 0) 1
    v.scale.isFinite = true ∧ 0 ≤ v.scale ∧ v.gridOffsets = [0, 1, 2, 3, 4, 5] ∧
      v.gridOffsets.length ≠ maxGridLines ∧ v.gridOffsets.Pairwise (· < ·) ∧
      ¬ (endless.scale.isFinite = true ∧ 0 ≤ endless.scale) ∧ endless.gridOffsets = [] := by
  intro v endless
  have finite : v.scale.isFinite = true := by decide +kernel
  have length : 0 ≤ v.scale := by decide +kernel
  have lines : v.gridOffsets = [0, 1, 2, 3, 4, 5] := by decide +kernel
  have other : ¬ (endless.scale.isFinite = true ∧ 0 ≤ endless.scale) := by decide +kernel
  obtain ⟨-, -, -, -, ordered, -⟩ := (gridOffsets_multiples v).1 finite length
  refine ⟨finite, length, lines, by rw [lines]; decide, ordered, other, ?_⟩
  exact (gridOffsets_multiples endless).2.1 other

end View

end PositionMap
