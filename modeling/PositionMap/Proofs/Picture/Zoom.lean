import Mathlib.Order.Interval.Set.UnorderedInterval
import PositionMap.Proofs.Picture.Drawing
import PositionMap.Proofs.Picture.Layers
import PositionMap.Proofs.Number.Arithmetic
import PositionMap.Proofs.Stride

/-! # Zooming out

With a larger scale each point is shown closer to the middle of the canvas. No rounding spoils that,
since each operation of the projection is monotone, and leaves alone zero and the middle of a side. So
what is on the canvas stays on it, and a picture never loses an arc.
-/

namespace PositionMap

open Canvas Number

namespace Number

open Set (uIcc)

variable {a b q r : ℚ} {x y length extent meters scale wider : Float}

theorem rounded_mem_uIcc (between : b ∈ uIcc 0 a) : rounded b ∈ uIcc 0 (rounded a) := by
  have mapped := rounded_mono.mapsTo_uIcc between
  rwa [IsDouble.zero.rounded_eq] at mapped

theorem isFinite_of_mem_uIcc (finite : x.isFinite = true) (number : y.isNaN = false)
    (between : value y ∈ uIcc 0 (value x)) : y.isFinite = true := by
  obtain ⟨low, high⟩ := abs_lt.mp (isFinite_iff.mp finite).2
  refine isFinite_iff.mpr ⟨number, abs_lt.mpr ?_⟩
  rcases Set.mem_uIcc.mp between with ⟨above, below⟩ | ⟨above, below⟩
  · exact ⟨by linarith, by linarith⟩
  · exact ⟨by linarith, by linarith⟩

theorem quotient_mem_uIcc (finite : (meters / scale).isFinite = true) (positive : 0 < scale)
    (le : scale ≤ wider) (known : wider.isFinite = true) :
    (meters / wider).isFinite = true ∧ value (meters / wider) ∈ uIcc 0 (value (meters / scale)) := by
  have length : meters.isFinite = true := isFinite_of_div finite
  have least : 0 < value scale := (lt_iff.mp positive).2.2
  have most : value scale ≤ value wider := (le_iff.mp le).2.2
  have whole : scale.isFinite = true := isFinite_of_between rfl known (le_of_lt positive) le
  have near := rounds_div length whole least.ne'
  have far := rounds_div length known (least.trans_le most).ne'
  have closer : value meters / value wider ∈ uIcc 0 (value meters / value scale) := by
    rcases le_total 0 (value meters) with east | west
    · exact Set.mem_uIcc.mpr (.inl ⟨div_nonneg east (least.trans_le most).le,
        div_le_div_of_nonneg_left east least most⟩)
    · have mirrored := div_le_div_of_nonneg_left (neg_nonneg.mpr west) least most
      rw [neg_div, neg_div] at mirrored
      exact Set.mem_uIcc.mpr (.inr ⟨neg_le_neg_iff.mp mirrored,
        div_nonpos_of_nonpos_of_nonneg west (least.trans_le most).le⟩)
  have between : value (meters / wider) ∈ uIcc 0 (value (meters / scale)) := by
    rw [near.value_eq, far.value_eq]
    exact rounded_mem_uIcc closer
  exact ⟨isFinite_of_mem_uIcc finite far.number between, between⟩

theorem product_mem_uIcc (finite : (x * extent).isFinite = true) (nonneg : 0 ≤ value extent)
    (known : y.isFinite = true) (between : value y ∈ uIcc 0 (value x)) :
    (y * extent).isFinite = true ∧ value (y * extent) ∈ uIcc 0 (value (x * extent)) := by
  obtain ⟨left, right⟩ := isFinite_of_mul finite
  have near := rounds_mul left right
  have far := rounds_mul known right
  have scaled : Monotone fun q => q * value extent := monotone_mul_right_of_nonneg nonneg
  have closer := scaled.mapsTo_uIcc between
  rw [zero_mul] at closer
  have between : value (y * extent) ∈ uIcc 0 (value (x * extent)) := by
    rw [near.value_eq, far.value_eq]
    exact rounded_mem_uIcc closer
  exact ⟨isFinite_of_mem_uIcc finite far.number between, between⟩

/-! ## Sides -/

structure Side (length : Float) : Prop where
  finite : length.isFinite = true
  nonneg : 0 ≤ length

namespace Side

theorem value_nonneg (side : Side length) : 0 ≤ value length :=
  (le_iff.mp side.nonneg).2.2

theorem middle (side : Side length) :
    (length / 2).isFinite = true ∧ value (length / 2) ∈ Set.Icc 0 (value length) :=
  (rounds_half side.finite).between .zero (isDouble_value side.finite)
    (div_nonneg side.value_nonneg zero_le_two) (div_le_self side.value_nonneg one_le_two)

/-- Whatever lies between the middle of a side and a point on it is on it. -/
theorem contains_of_closer (side : Side length) (near : Rounds x q) (far : Rounds y r)
    (on : 0 ≤ x ∧ x ≤ length) (closer : r ∈ uIcc (value (length / 2)) q) : 0 ≤ y ∧ y ≤ length := by
  obtain ⟨finite, middle⟩ := side.middle
  have mapped := rounded_mono.mapsTo_uIcc closer
  rw [(isDouble_value finite).rounded_eq, ← near.value_eq, ← far.value_eq] at mapped
  have ends : value x ∈ Set.Icc 0 (value length) := ⟨(le_iff.mp on.1).2.2, (le_iff.mp on.2).2.2⟩
  obtain ⟨least, most⟩ := Set.uIcc_subset_Icc middle ends mapped
  exact ⟨le_iff.mpr ⟨rfl, far.number, least⟩,
    le_iff.mpr ⟨far.number, isNaN_of_isFinite side.finite, most⟩⟩

/-- A point on a side is at a finite step from its middle, and a smaller step leads to a point on it. -/
theorem contains_add (side : Side length) (on : 0 ≤ length / 2 + x ∧ length / 2 + x ≤ length) :
    x.isFinite = true ∧ ∀ y : Float, y.isFinite = true → value y ∈ uIcc 0 (value x) →
      0 ≤ length / 2 + y ∧ length / 2 + y ≤ length := by
  obtain ⟨middle, -⟩ := side.middle
  obtain ⟨-, step⟩ := isFinite_of_add (isFinite_of_between rfl side.finite on.1 on.2)
  refine ⟨step, fun y known between => ?_⟩
  have moved : Monotone fun q => value (length / 2) + q := fun _ _ le => add_le_add_right le _
  have closer := moved.mapsTo_uIcc between
  rw [add_zero] at closer
  exact side.contains_of_closer (rounds_add middle step) (rounds_add middle known) on closer

theorem contains_sub (side : Side length) (on : 0 ≤ length / 2 - x ∧ length / 2 - x ≤ length) :
    x.isFinite = true ∧ ∀ y : Float, y.isFinite = true → value y ∈ uIcc 0 (value x) →
      0 ≤ length / 2 - y ∧ length / 2 - y ≤ length := by
  obtain ⟨middle, -⟩ := side.middle
  obtain ⟨-, step⟩ := isFinite_of_sub (isFinite_of_between rfl side.finite on.1 on.2)
  refine ⟨step, fun y known between => ?_⟩
  have moved : Antitone fun q => value (length / 2) - q := fun _ _ le => sub_le_sub_left le _
  have closer := moved.mapsTo_uIcc between
  rw [sub_zero] at closer
  exact side.contains_of_closer (rounds_sub middle step) (rounds_sub middle known) on closer

end Side

end Number

namespace View

/-- A canvas that has a size, and a fill that does not turn the picture around. -/
structure Sound (v : View) : Prop where
  width : Side v.width
  height : Side v.height
  fill : 0 ≤ v.fill

variable {v : View} {wider meters : Float}

theorem halfExtent_nonneg (sound : v.Sound) (finite : v.halfExtent.isFinite = true) :
    0 ≤ value v.halfExtent := by
  obtain ⟨half, fill⟩ := isFinite_of_mul finite
  have halved := rounds_half (isFinite_of_div half)
  have least : 0 ≤ value (lesser v.width v.height) := by
    rw [value_lesser sound.width.finite sound.height.finite]
    exact le_min sound.width.value_nonneg sound.height.value_nonneg
  have above : 0 ≤ value (lesser v.width v.height / 2) := by
    rw [halved.value_eq]
    exact IsDouble.zero.le_rounded (div_nonneg least zero_le_two)
  have product : value v.halfExtent = _ := (rounds_mul half fill).value_eq
  rw [product]
  exact IsDouble.zero.le_rounded (mul_nonneg above (le_iff.mp sound.fill).2.2)

/-- A length takes fewer pixels with a larger scale. -/
theorem pixels_mem_uIcc (sound : v.Sound) (finite : (v.pixels meters).isFinite = true)
    (positive : 0 < v.scale) (le : v.scale ≤ wider) (known : wider.isFinite = true) :
    let far := { v with scale := wider }
    (far.pixels meters).isFinite = true ∧
      value (far.pixels meters) ∈ Set.uIcc 0 (value (v.pixels meters)) := by
  intro far
  obtain ⟨near, extent⟩ := isFinite_of_mul finite
  obtain ⟨smaller, between⟩ := quotient_mem_uIcc near positive le known
  have nonneg := halfExtent_nonneg sound extent
  exact product_mem_uIcc finite nonneg smaller between

/-- A position that is on the canvas is on it with any larger scale. -/
theorem contains_of_wider (sound : v.Sound) (positive : 0 < v.scale) (le : v.scale ≤ wider)
    (known : wider.isFinite = true) {p : Point} (shown : v.contains (v.project p) = true) :
    let far := { v with scale := wider }
    far.contains (far.project p) = true := by
  intro far
  obtain ⟨across, down⟩ := contains_iff.mp shown
  obtain ⟨east, right⟩ := sound.width.contains_add across
  obtain ⟨north, up⟩ := sound.height.contains_sub down
  obtain ⟨finite, closer⟩ := pixels_mem_uIcc sound east positive le known
  obtain ⟨whole, nearer⟩ := pixels_mem_uIcc sound north positive le known
  exact contains_iff.mpr ⟨right _ finite closer, up _ whole nearer⟩

end View

/-! ## Dots and marker -/

namespace Trail

variable {α : Type} {xs : List α} {numbers : List ℕ}

theorem pick_filter (p : α → Bool) :
    (pick xs numbers).filter p = pick xs (numbers.filter fun i => xs[i]?.any p) := by
  unfold pick
  rw [List.filter_filterMap, List.filterMap_filter]
  refine List.filterMap_congr fun i _ => ?_
  cases xs[i]? with
  | none => rfl
  | some x => cases shown : p x <;> simp [shown]

end Trail

namespace Scene

def dotNumbers (s : Scene) : List ℕ :=
  let points := s.trail.points.toList
  (Trail.multiples (Trail.stride points.length) points.length).filter
    fun i => points[i]?.any fun p => s.view.contains (s.view.project p)

theorem dots_eq_pick (s : Scene) :
    s.dots = Trail.pick (s.trail.points.toList.map s.view.project) s.dotNumbers := by
  rw [dots, Trail.dotCandidates_eq, ← Trail.pick_map, Trail.pick_filter]
  refine congrArg (Trail.pick _) (List.filter_congr fun i _ => ?_)
  rw [List.getElem?_map, Option.any_map]

theorem length_dots (s : Scene) : s.dots.length = s.dotNumbers.length := by
  rw [dots_eq_pick]
  refine List.filterMap_length_eq_length.mpr fun i member => ?_
  obtain ⟨p, point, -⟩ := (Option.any_eq_true _ _).mp (List.mem_filter.mp member).2
  rw [List.getElem?_map, point]
  rfl

theorem arcs_drawn {s : Scene} {breakage? : Option Breakage}
    (complete : (s.drawn breakage?).error? = none) :
    arcs (s.drawn breakage?).performed =
      Picture.circle s.view.center Style.originDotRadius ::
        (s.dots.map (Picture.circle · Style.trailDotRadius) ++
          if s.view.contains s.place then [Picture.circle s.place Style.markerRadius,
            Picture.circle s.place Style.markerCenterRadius] else []) := by
  have played : s.drawn breakage? = play breakage? s.picture := s.drawn_eq_play breakage?
  rw [played] at complete
  rw [played, performed_of_error? complete, s.picture_eq, arcs_append, Picture.arcs_beneath,
    Picture.arcs_top]
  rfl

/-- A larger scale shows a dot of each point that has one with a smaller scale. -/
theorem dotNumbers_sublist {s : Scene} {scale wider : Float} (sound : s.view.Sound)
    (positive : 0 < scale) (le : scale ≤ wider) (known : wider.isFinite = true) :
    (s.setScale scale).dotNumbers.Sublist (s.setScale wider).dotNumbers := by
  have same : (s.setScale scale).view.Sound := ⟨sound.width, sound.height, sound.fill⟩
  refine List.monotone_filter_right _ fun i shown => ?_
  obtain ⟨p, point, on⟩ := (Option.any_eq_true _ _).mp shown
  exact (Option.any_eq_true _ _).mpr ⟨p, point, View.contains_of_wider same positive le known on⟩

/-- A scene on a canvas whose sides have finite lengths, with a fill that is not negative, and two finite
scales, of which the second is not smaller. Each point of the trail that has a dot with the first one has
a dot with the second, in the same order, and if the marker is on the canvas it stays on it. As the arcs
of any scene that is drawn to its end are that in the middle, those of these dots and the two of the
marker if it is on the canvas, there are no fewer of them with the second scale. -/
theorem zooming_out_keeps (s : Scene) (sound : s.view.Sound) {scale wider : Float}
    (positive : 0 < scale) (le : scale ≤ wider) (known : wider.isFinite = true) :
    let near := s.setScale scale
    let far := s.setScale wider
    near.dotNumbers.Sublist far.dotNumbers ∧
      (near.marker?.isSome = true → far.marker?.isSome = true) ∧
      (∀ (t : Scene) (breakage? : Option Breakage), (t.drawn breakage?).error? = none →
        arcs (t.drawn breakage?).performed =
          Picture.circle t.view.center Style.originDotRadius ::
            (Trail.pick (t.trail.points.toList.map t.view.project) t.dotNumbers).map
              (Picture.circle · Style.trailDotRadius) ++
            t.marker?.elim [] fun place => [Picture.circle place Style.markerRadius,
              Picture.circle place Style.markerCenterRadius]) ∧
      ∀ breakage? other? : Option Breakage, (near.drawn breakage?).error? = none →
        (far.drawn other?).error? = none →
        calls "arc" (near.drawn breakage?).performed ≤ calls "arc" (far.drawn other?).performed := by
  intro near far
  have same : near.view.Sound := ⟨sound.width, sound.height, sound.fill⟩
  have dots : near.dotNumbers.Sublist far.dotNumbers := dotNumbers_sublist sound positive le known
  have marked (shown : near.view.contains near.place = true) : far.view.contains far.place = true :=
    View.contains_of_wider same positive le known shown
  refine ⟨dots, fun some => ?_, fun t breakage? complete => ?_, fun breakage? other? complete done => ?_⟩
  · rw [marker?_eq] at some ⊢
    by_cases shown : near.view.contains near.place = true
    · rw [if_pos (marked shown)]
      rfl
    · rw [if_neg shown] at some
      cases some
  · rw [arcs_drawn complete, dots_eq_pick, marker?_eq, List.cons_append]
    split <;> rfl
  · have fewer := dots.length_le
    rw [← length_dots, ← length_dots] at fewer
    rw [calls_arc, calls_arc, arcs_drawn complete, arcs_drawn done, List.length_cons, List.length_cons,
      List.length_append, List.length_append, List.length_map, List.length_map]
    by_cases shown : near.view.contains near.place = true
    · rw [if_pos shown, if_pos (marked shown)]
      exact Nat.succ_le_succ (Nat.add_le_add_right fewer 2)
    · rw [if_neg shown]
      exact Nat.succ_le_succ (fewer.trans (Nat.le_add_right _ _))

/-- With twice the scale the second of two positions comes onto the canvas, with a dot and the marker. -/
theorem zooming_out_to_forty :
    let s := (ofSettings .default).applyAll
      [.size ⟨100, 80, 1⟩, .position ⟨3, 4⟩, .position ⟨30, -40⟩]
    s.view.Sound ∧ (0 : Float) < 20 ∧ (20 : Float) ≤ 40 ∧ (40 : Float).isFinite = true ∧
      (s.setScale 20).dotNumbers = [0] ∧ (s.setScale 40).dotNumbers = [0, 1] ∧
      (s.setScale 20).marker?.isSome = false ∧ (s.setScale 40).marker?.isSome = true ∧
      calls "arc" ((s.setScale 20).drawn none).performed ≤
        calls "arc" ((s.setScale 40).drawn none).performed := by
  intro s
  have across : Side s.view.width := ⟨by decide +kernel, by decide +kernel⟩
  have down : Side s.view.height := ⟨by decide +kernel, by decide +kernel⟩
  have sound : s.view.Sound := ⟨across, down, by decide +kernel⟩
  have positive : (0 : Float) < 20 := by decide +kernel
  have le : (20 : Float) ≤ 40 := by decide +kernel
  have known : (40 : Float).isFinite = true := by decide +kernel
  obtain ⟨-, -, -, fewer⟩ := zooming_out_keeps s sound positive le known
  exact ⟨sound, positive, le, known, by decide +kernel, by decide +kernel, by decide +kernel,
    by decide +kernel, fewer none none (by decide +kernel) (by decide +kernel)⟩

end Scene

end PositionMap
