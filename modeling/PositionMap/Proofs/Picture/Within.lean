import PositionMap.Proofs.Grid
import PositionMap.Proofs.Picture.Drawing
import PositionMap.Proofs.Picture.Layers

/-! # What is within the scale is on the canvas

The scale is mapped onto at most half the shorter side, so what is within it stays on the canvas: the
marker, the dots of the trail and the grid lines. No rounding leads off the canvas, since the bounds of
each intermediate result, one of them being half of a side, are numbers that need no rounding.
-/

namespace PositionMap

open Canvas Number

/-- The length of a side: none, or at least a pixel. -/
structure Sized (length : Float) : Prop where
  finite : length.isFinite = true
  whole : length == 0 ∨ 1 ≤ length

/-- A view whose scale and fill could be those of accepted settings. -/
structure View.Ordinary (v : View) : Prop where
  finite : v.scale.isFinite = true
  positive : 0 < v.scale
  filled : 0 < v.fill
  atMost : v.fill ≤ 1
  width : Sized v.width
  height : Sized v.height

/-- Whether a position is not farther east, west, north or south than the scale. -/
def View.reaches (v : View) (p : Point) : Bool :=
  p.x.abs ≤ v.scale && p.y.abs ≤ v.scale

namespace Sized

variable {length offset : Float}

theorem value_cases (sized : Sized length) : value length = 0 ∨ 1 ≤ value length := by
  obtain none | some := sized.whole
  · exact .inl (beq_iff.mp none).2.2
  · exact .inr (value_one.symm.trans_le (le_iff.mp some).2.2)

theorem value_nonneg (sized : Sized length) : 0 ≤ value length := by
  obtain none | some := sized.value_cases
  · exact none.ge
  · exact zero_le_one.trans some

theorem nonneg (sized : Sized length) : 0 ≤ length :=
  (le_iff_of_isFinite rfl sized.finite).mpr sized.value_nonneg

theorem isDouble_half (sized : Sized length) : IsDouble (value length / 2) := by
  obtain none | some := sized.value_cases
  · rw [none, zero_div]
    exact .zero
  · exact (isDouble_value sized.finite).half some

/-- A side is halved exactly. -/
theorem half (sized : Sized length) :
    (length / 2).isFinite = true ∧ value (length / 2) = value length / 2 :=
  (rounds_half sized.finite).exact sized.isDouble_half

/-- From the middle of a side, a step of at most half its length does not lead beyond its ends. -/
theorem middle_between (sized : Sized length) (finite : offset.isFinite = true)
    (near : |value offset| ≤ value length / 2) :
    (0 ≤ length / 2 + offset ∧ length / 2 + offset ≤ length) ∧
      0 ≤ length / 2 - offset ∧ length / 2 - offset ≤ length := by
  obtain ⟨whole, middle⟩ := sized.half
  obtain ⟨low, high⟩ := abs_le.mp near
  have ends := isDouble_value sized.finite
  have within {z : Float} {q : ℚ} (rounds : Rounds z q) (above : 0 ≤ q) (below : q ≤ value length) :
      0 ≤ z ∧ z ≤ length := by
    obtain ⟨known, least, most⟩ := rounds.between .zero ends above below
    exact ⟨(le_iff_of_isFinite rfl known).mpr least, (le_iff_of_isFinite known sized.finite).mpr most⟩
  have sum := rounds_add whole finite
  have difference := rounds_sub whole finite
  rw [middle] at sum difference
  exact ⟨within sum (by linarith) (by linarith), within difference (by linarith) (by linarith)⟩

end Sized

theorem Sized.lesser {x y : Float} (left : Sized x) (right : Sized y) : Sized (Number.lesser x y) := by
  unfold Number.lesser
  split_ifs
  · exact right
  · exact right
  · exact left

namespace View

variable {v : View} {meters : Float}

theorem Ordinary.isDouble_half (ordinary : v.Ordinary) :
    IsDouble (min (value v.width) (value v.height) / 2) := by
  rw [← value_lesser ordinary.width.finite ordinary.height.finite]
  exact (ordinary.width.lesser ordinary.height).isDouble_half

/-- The scale is mapped onto at most half the shorter side. -/
theorem halfExtent_between (ordinary : v.Ordinary) :
    v.halfExtent.isFinite = true ∧ 0 ≤ value v.halfExtent ∧
      value v.halfExtent ≤ min (value v.width) (value v.height) / 2 := by
  have shorter := ordinary.width.lesser ordinary.height
  obtain ⟨whole, half⟩ := shorter.half
  have fill : v.fill.isFinite = true :=
    isFinite_of_between rfl (by decide +kernel) (le_of_lt ordinary.filled) ordinary.atMost
  have some : 0 < value v.fill := (lt_iff.mp ordinary.filled).2.2
  have most : value v.fill ≤ 1 := value_one ▸ (le_iff.mp ordinary.atMost).2.2
  have product := rounds_mul whole fill
  have nonneg := div_nonneg shorter.value_nonneg zero_le_two
  rw [half] at product
  rw [← value_lesser ordinary.width.finite ordinary.height.finite]
  exact product.between .zero shorter.isDouble_half (mul_nonneg nonneg some.le)
    (mul_le_of_le_one_right nonneg most)

/-- A length within the scale takes at most half the shorter side. -/
theorem pixels_near (ordinary : v.Ordinary) (finite : meters.isFinite = true)
    (within : |value meters| ≤ value v.scale) :
    (v.pixels meters).isFinite = true ∧
      |value (v.pixels meters)| ≤ min (value v.width) (value v.height) / 2 := by
  have scale : 0 < value v.scale := (lt_iff.mp ordinary.positive).2.2
  have share : |value meters / value v.scale| ≤ 1 := by
    rw [abs_div, abs_of_pos scale]
    exact (div_le_one scale).mpr within
  obtain ⟨low, high⟩ := abs_le.mp share
  obtain ⟨known, least, most⟩ :=
    (rounds_div finite ordinary.finite scale.ne').between IsDouble.one.neg .one low high
  obtain ⟨whole, some, half⟩ := halfExtent_between ordinary
  -- half a side is a double, so that the product is not rounded beyond it
  have near : |value (meters / v.scale) * value v.halfExtent| ≤
      min (value v.width) (value v.height) / 2 := by
    rw [abs_mul, abs_of_nonneg some]
    exact (mul_le_of_le_one_left some (abs_le.mpr ⟨least, most⟩)).trans half
  obtain ⟨low, high⟩ := abs_le.mp near
  obtain ⟨drawn, least, most⟩ :=
    (rounds_mul known whole).between ordinary.isDouble_half.neg ordinary.isDouble_half low high
  exact ⟨drawn, abs_le.mpr ⟨least, most⟩⟩

/-- Lengths within the scale lead from the middle to points of the canvas, in all four directions. -/
theorem steps_between (ordinary : v.Ordinary) (finite : meters.isFinite = true)
    (within : |value meters| ≤ value v.scale) :
    ((0 ≤ v.center.x + v.pixels meters ∧ v.center.x + v.pixels meters ≤ v.width) ∧
        0 ≤ v.center.x - v.pixels meters ∧ v.center.x - v.pixels meters ≤ v.width) ∧
      (0 ≤ v.center.y + v.pixels meters ∧ v.center.y + v.pixels meters ≤ v.height) ∧
        0 ≤ v.center.y - v.pixels meters ∧ v.center.y - v.pixels meters ≤ v.height := by
  obtain ⟨drawn, near⟩ := pixels_near ordinary finite within
  exact ⟨ordinary.width.middle_between drawn
      (near.trans (div_le_div_of_nonneg_right (min_le_left _ _) zero_le_two)),
    ordinary.height.middle_between drawn
      (near.trans (div_le_div_of_nonneg_right (min_le_right _ _) zero_le_two))⟩

theorem contains_project (ordinary : v.Ordinary) {p : Point} (reached : v.reaches p = true) :
    v.contains (v.project p) = true := by
  simp only [reaches, Bool.and_eq_true, decide_eq_true_eq] at reached
  obtain ⟨eastward, across⟩ := isFinite_of_abs_le ordinary.finite reached.1
  obtain ⟨northward, down⟩ := isFinite_of_abs_le ordinary.finite reached.2
  exact contains_iff.mpr
    ⟨(steps_between ordinary eastward across).1.1, (steps_between ordinary northward down).2.2⟩

end View

/-! ## Grid lines -/

def Canvas.Command.vertex? : Command → Option Point
  | .moveTo p | .lineTo p => some p
  | _ => none

def View.Keeps (v : View) (commands : List Command) : Prop :=
  ∀ command ∈ commands, ∀ p ∈ command.vertex?, v.contains p = true

namespace View

variable {v : View}

theorem keeps_append {first second : List Command} :
    v.Keeps (first ++ second) ↔ v.Keeps first ∧ v.Keeps second := by
  simp only [Keeps, List.mem_append, or_imp, forall_and]

theorem keeps_line {start stop : Point} (first : v.contains start = true)
    (last : v.contains stop = true) :
    v.Keeps [.beginPath, .moveTo start, .lineTo stop, .stroke] := by
  simp [Keeps, Command.vertex?, first, last]

theorem keeps_verticalLine (ordinary : v.Ordinary) {x : Float} (within : 0 ≤ x ∧ x ≤ v.width) :
    v.Keeps (Picture.verticalLine v x) :=
  keeps_line (contains_iff.mpr ⟨within, le_self rfl, ordinary.height.nonneg⟩)
    (contains_iff.mpr ⟨within, ordinary.height.nonneg, le_self ordinary.height.finite⟩)

theorem keeps_horizontalLine (ordinary : v.Ordinary) {y : Float} (within : 0 ≤ y ∧ y ≤ v.height) :
    v.Keeps (Picture.horizontalLine v y) :=
  keeps_line (contains_iff.mpr ⟨⟨le_self rfl, ordinary.width.nonneg⟩, within⟩)
    (contains_iff.mpr ⟨⟨ordinary.width.nonneg, le_self ordinary.width.finite⟩, within⟩)

theorem keeps_gridLines (ordinary : v.Ordinary) {meters : Float} (finite : meters.isFinite = true)
    (within : |value meters| ≤ value v.scale) : v.Keeps (Picture.gridLines v meters) := by
  obtain ⟨⟨right, left⟩, below, above⟩ := steps_between ordinary finite within
  refine keeps_append.mpr ⟨keeps_append.mpr
    ⟨keeps_verticalLine ordinary right, keeps_horizontalLine ordinary above⟩, ?_⟩
  split
  · exact keeps_append.mpr ⟨keeps_verticalLine ordinary left, keeps_horizontalLine ordinary below⟩
  · exact fun command member => absurd member List.not_mem_nil

theorem keeps_grid (ordinary : v.Ordinary) : v.Keeps (Picture.grid v) := by
  refine keeps_append.mpr ⟨by simp [Keeps, Command.vertex?], fun command member => ?_⟩
  obtain ⟨meters, offset, drawn⟩ := List.mem_flatMap.mp member
  obtain ⟨finite, nonneg, le⟩ := le_scale_of_mem_gridOffsets offset
  exact keeps_gridLines ordinary finite ((abs_of_nonneg nonneg).trans_le le) command drawn

/-- Accepted settings on such a canvas. -/
theorem ordinary_of_accepted (settings : Settings) (accepted : settings.refusal? = none)
    {width height : Float} (across : Sized width) (down : Sized height) :
    Ordinary ⟨width, height, settings.initialScale, settings.viewFill⟩ := by
  unfold Settings.refusal? at accepted
  split_ifs at accepted with scale fill rate
  simp only [Bool.not_eq_true', Bool.and_eq_true, decide_eq_true_eq, Bool.not_eq_false] at scale fill
  exact ⟨scale.1, scale.2, fill.1, fill.2, across, down⟩

end View

/-- On a canvas with sides of no or at least one pixel, with a positive scale and fill, each position
within the scale is shown on the canvas or at its edge. So the marker of such a position is drawn, and so
are the dots of all candidates that are such positions. No grid line leads off the canvas. -/
theorem Scene.within_scale_shown {s : Scene} (ordinary : s.view.Ordinary) :
    let v := s.view
    let candidates := Trail.dotCandidates s.trail.points.toList
    (∀ p, v.reaches p = true → v.contains (v.project p) = true) ∧
      (v.reaches s.trail.position = true → s.marker? = some s.place) ∧
      ((candidates.filter v.reaches).map v.project).Sublist s.dots ∧
      ∀ breakage?, v.Keeps ((Drawing.grid v).performance breakage?).performed := by
  intro v candidates
  have shown (p : Point) (reached : v.reaches p = true) : v.contains (v.project p) = true :=
    View.contains_project ordinary reached
  refine ⟨shown, fun reached => ?_, ?_, fun breakage? command member => ?_⟩
  · rw [s.marker?_eq]
    exact if_pos (shown _ reached)
  · rw [dots, List.filter_map]
    exact (List.monotone_filter_right candidates fun p reached => shown p reached).map v.project
  · have told := performed_prefix breakage? (Picture.grid v)
    rw [(Drawing.draws_grid v).performance_eq] at member
    exact View.keeps_grid ordinary command (told.subset member)

/-- At the edges of a canvas that is filled. -/
theorem Scene.edges_shown :
    let s := (ofSettings ⟨20, 1, none⟩).applyAll
      [.size ⟨200, 200, 1⟩, .position ⟨-20, 20⟩, .position ⟨20, -20⟩]
    s.view.Ordinary ∧ s.view.reaches s.trail.position = true ∧ s.marker? = some s.place ∧
      s.place.x = 200 ∧ s.place.y = 200 ∧ s.dots.length = 2 := by
  intro s
  have side : Sized 200 := ⟨by decide +kernel, .inr (by decide +kernel)⟩
  have accepted : Settings.refusal? ⟨20, 1, none⟩ = none := by decide +kernel
  have ordinary : s.view.Ordinary := View.ordinary_of_accepted ⟨20, 1, none⟩ accepted side side
  have reached : s.view.reaches s.trail.position = true := by decide +kernel
  obtain ⟨-, marked, -, -⟩ := within_scale_shown ordinary
  exact ⟨ordinary, reached, marked reached, by decide +kernel, by decide +kernel, by decide +kernel⟩

end PositionMap
