import Mathlib.Data.Int.CardIntervalMod
import PositionMap.Trail

/-! # Which points of a trail may get a dot

Those whose number is a multiple of the stride. There are about as many as are aimed at, however long the
trail is: never less, and at most one more once the stride is not smaller than that number.
-/

namespace PositionMap.Trail

def multiples (step n : ℕ) : List ℕ :=
  (List.range n).filter fun i => step ∣ i

def pick {α : Type} (xs : List α) (numbers : List ℕ) : List α :=
  numbers.filterMap fun i => xs[i]?

section Pick

variable {α : Type} (x : α) (xs : List α) (numbers : List ℕ)

theorem pick_zero : pick (x :: xs) (0 :: numbers) = x :: pick (x :: xs) numbers := rfl

theorem pick_succ : pick (x :: xs) (numbers.map Nat.succ) = pick xs numbers := by
  rw [pick, List.filterMap_map]
  rfl

theorem pick_map {β : Type} (f : α → β) : pick (xs.map f) numbers = (pick xs numbers).map f := by
  rw [pick, pick, List.map_filterMap]
  exact List.filterMap_congr fun i _ => List.getElem?_map ..

end Pick

/-- An element is taken when those before it and those that have been left out already make up a whole
number of steps. -/
theorem every_eq_pick {α : Type} {step wait : ℕ} (early : wait < step) (xs : List α) :
    every step wait xs =
      pick xs ((List.range xs.length).filter fun i => step ∣ i + (step - wait)) := by
  induction xs generalizing wait with
  | nil => rw [every]; rfl
  | cons x rest ih =>
      rw [List.length_cons, List.range_succ_eq_map, List.filter_cons, List.filter_map]
      cases wait with
      | zero =>
          have first : step ∣ 0 + (step - 0) := by rw [Nat.zero_add, Nat.sub_zero]
          rw [if_pos (decide_eq_true first), pick_zero, pick_succ, every, ih (Nat.sub_lt early one_pos)]
          refine congrArg (fun numbers => x :: pick rest numbers) (List.filter_congr fun i _ => ?_)
          have later : i.succ + (step - 0) = i + (step - (step - 1)) + step := by omega
          rw [Function.comp, later]
          exact decide_eq_decide.mpr Nat.dvd_add_self_right.symm
      | succ wait =>
          have left : ¬ step ∣ 0 + (step - (wait + 1)) := by
            rw [Nat.zero_add]
            exact Nat.not_dvd_of_pos_of_lt (by omega) (by omega)
          rw [if_neg (by simpa using left), pick_succ, every, ih (by omega)]
          refine congrArg (pick rest) (List.filter_congr fun i _ => ?_)
          have later : i.succ + (step - (wait + 1)) = i + (step - wait) := by omega
          rw [Function.comp, later]

/-- The candidates for a dot are the points whose numbers are multiples of the stride. -/
theorem dotCandidates_eq (points : List Point) :
    dotCandidates points = pick points (multiples (stride points.length) points.length) := by
  rw [dotCandidates, every_eq_pick (stride_pos _)]
  exact congrArg (pick points) (List.filter_congr fun i _ => decide_eq_decide.mpr Nat.dvd_add_self_right)

/-! ## Their number -/

theorem length_multiples (n : ℕ) {step : ℕ} (pos : 0 < step) :
    n ≤ (multiples step n).length * step ∧ (multiples step n).length * step < n + step := by
  have count : (multiples step n).length = n / step + if 0 < n % step then 1 else 0 := by
    have residues := Nat.count_modEq_card n pos 0
    rw [Nat.zero_mod, Nat.count, List.countP_eq_length_filter] at residues
    simp only [Nat.modEq_zero_iff_dvd] at residues
    exact residues
  have parts : n / step * step + n % step = n := Nat.div_add_mod' n step
  have rest : n % step < step := Nat.mod_lt n pos
  rw [count, Nat.add_mul]
  split <;> omega

theorem stride_of_lt {n : ℕ} (short : n < dotTarget) : stride n = 1 := by
  rw [stride, Nat.div_eq_of_lt short]
  rfl

/-- The points of a trail come to the number that is aimed at, for each one in a stride. -/
theorem stride_bounds {n : ℕ} (long : dotTarget ≤ n) :
    dotTarget * stride n ≤ n ∧ n < dotTarget * stride n + dotTarget := by
  unfold stride dotTarget at *
  omega

theorem length_candidates_of_lt {n : ℕ} (short : n < dotTarget) :
    (multiples (stride n) n).length = n := by
  rw [stride_of_lt short]
  have bounds := length_multiples n Nat.one_pos
  omega

theorem length_candidates_of_le {n : ℕ} (long : dotTarget ≤ n) :
    dotTarget ≤ (multiples (stride n) n).length ∧
      (multiples (stride n) n).length < 2 * dotTarget := by
  obtain ⟨covered, spare⟩ := length_multiples n (stride_pos n)
  obtain ⟨least, most⟩ := stride_bounds long
  refine ⟨Nat.le_of_mul_le_mul_right (least.trans covered) (stride_pos n), ?_⟩
  by_contra! many
  have steps := Nat.mul_le_mul_right (stride n) many
  have pos := stride_pos n
  unfold dotTarget at *
  omega

theorem length_candidates_le {n : ℕ} (long : 380 ≤ n) :
    (multiples (stride n) n).length ≤ dotTarget + 1 := by
  obtain ⟨-, spare⟩ := length_multiples n (stride_pos n)
  obtain ⟨-, most⟩ := stride_bounds (n := n) (by unfold dotTarget; omega)
  by_contra! many
  have steps := Nat.mul_le_mul_right (stride n) (Nat.succ_le_of_lt many)
  unfold dotTarget at *
  omega

end PositionMap.Trail
