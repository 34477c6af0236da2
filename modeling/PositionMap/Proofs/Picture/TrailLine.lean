import PositionMap.Proofs.Number.Arithmetic
import PositionMap.Proofs.Picture.Drawing
import PositionMap.Proofs.Picture.Layers
import PositionMap.Proofs.Picture.Surface
import PositionMap.Proofs.Stride

/-! # What a trail puts on the canvas

One line through the places of all points, painted inside the rectangle of the canvas, and then the
dots, painted with the clip that was there before. `Paints` follows a surface through a list of commands
and what they paint; two lists that follow on each other are taken together with `Paints.append`.
-/

namespace PositionMap

open Canvas

namespace Canvas

def outline (transform : Transform) (commands : List Command) : List Segment :=
  commands.map fun command => ⟨command, transform⟩

namespace Surface

variable {c middle later : Surface} {first second : List Command} {painted more : List Painting}

theorem paintings_append (c : Surface) (first second : List Command) :
    c.paintings (first ++ second) = c.paintings first ++ (c.run first).paintings second := by
  induction first generalizing c with
  | nil => rfl
  | cons command first ih =>
      rw [List.cons_append, paintings, paintings, ih, List.append_assoc]
      rfl

/-- The commands lead from one surface to the other, and this is what they paint. -/
structure Paints (c : Surface) (commands : List Command) (later : Surface)
    (painted : List Painting) : Prop where
  run_eq : c.run commands = later
  paintings_eq : c.paintings commands = painted

theorem Paints.append (begun : c.Paints first middle painted)
    (continued : middle.Paints second later more) :
    c.Paints (first ++ second) later (painted ++ more) where
  run_eq := by rw [run_append, begun.run_eq, continued.run_eq]
  paintings_eq := by
    rw [paintings_append, begun.run_eq, begun.paintings_eq, continued.paintings_eq]

end Surface

end Canvas

namespace Picture

open Surface

def lineThrough : List Point → List Command
  | [] => []
  | first :: rest => .moveTo first :: rest.map .lineTo

theorem polyline_eq (v : View) (first : Point) (rest : List Point) :
    polyline v first rest =
      .beginPath :: (lineThrough ((first :: rest).map v.project) ++ [.stroke]) := by
  rw [List.map_cons, lineThrough, List.map_map]
  rfl

theorem paints_lines (c : Surface) (places : List Point) :
    c.Paints (places.map .lineTo)
      { c with path := c.path ++ outline c.pen.transform (places.map .lineTo) } [] := by
  induction places generalizing c with
  | nil => exact ⟨by simp [outline, run], rfl⟩
  | cons place rest ih =>
      have line : c.Paints [.lineTo place] (c.extend (.lineTo place)) [] := ⟨rfl, rfl⟩
      have added := line.append (ih (c.extend (.lineTo place)))
      simp only [extend, List.append_assoc] at added
      exact added

theorem paints_polyline (c : Surface) (v : View) (first : Point) (rest : List Point) :
    let line := outline c.pen.transform (lineThrough ((first :: rest).map v.project))
    c.Paints (polyline v first rest) { c with path := line }
      [.stroke line c.pen.strokeStyle c.pen.lineWidth c.pen.lineCap c.pen.lineJoin c.pen.setting] := by
  intro line
  have start : c.Paints [.beginPath, .moveTo (v.project first)]
      { c with path := outline c.pen.transform [.moveTo (v.project first)] } [] := ⟨rfl, rfl⟩
  have lines := start.append (paints_lines _ (rest.map v.project))
  have stroked : Paints { c with path := line } [.stroke] { c with path := line }
      [.stroke line c.pen.strokeStyle c.pen.lineWidth c.pen.lineCap c.pen.lineJoin
        c.pen.setting] := ⟨rfl, rfl⟩
  rw [polyline_eq]
  exact lines.append stroked

theorem paints_discs (c : Surface) (places : List Point) (radius : Float) :
    ∃ path, c.Paints (places.flatMap fun p => disc p radius) { c with path }
      (places.map fun p =>
        .fill (outline c.pen.transform [circle p radius]) c.pen.fillStyle c.pen.setting) := by
  induction places generalizing c with
  | nil => exact ⟨c.path, rfl, rfl⟩
  | cons p rest ih =>
      let path := outline c.pen.transform [circle p radius]
      have filled : c.Paints (disc p radius) { c with path }
          [.fill path c.pen.fillStyle c.pen.setting] := ⟨rfl, rfl⟩
      obtain ⟨path, others⟩ := ih { c with path }
      exact ⟨path, filled.append others⟩

/-- Nothing of the clip and the styles of the line is left for the dots. -/
theorem paints_trail (c : Surface) (v : View) {points : List Point} (some : points ≠ []) :
    let places := points.map v.project
    let dots := ((Trail.dotCandidates points).map v.project).filter v.contains
    let inside : Setting := { c.pen.setting with
      clip := outline c.pen.transform [.rect ⟨0, 0⟩ v.width v.height] :: c.pen.clip }
    ∃ path, c.Paints (trail v points) { c with pen.fillStyle := Style.trailDotFill, path }
      (.stroke (outline c.pen.transform (lineThrough places)) Style.trailStroke
          Style.trailLineWidth "round" "round" inside ::
        dots.map fun p => .fill (outline c.pen.transform [circle p Style.trailDotRadius])
          Style.trailDotFill c.pen.setting) := by
  intro places dots inside
  obtain ⟨first, rest, rfl⟩ := List.exists_cons_of_ne_nil some
  let pen : Pen := { c.pen with
    clip := inside.clip, strokeStyle := Style.trailStroke, lineWidth := Style.trailLineWidth,
    lineCap := "round", lineJoin := "round" }
  let line := outline c.pen.transform (lineThrough places)
  let frame := outline c.pen.transform [.rect ⟨0, 0⟩ v.width v.height]
  have entered : c.Paints (entering v) ⟨pen, frame, c.pen :: c.saved⟩ [] := ⟨rfl, rfl⟩
  have left : Paints ⟨pen, line, c.pen :: c.saved⟩ leaving
      ⟨{ c.pen with fillStyle := Style.trailDotFill }, line, c.saved⟩ [] := ⟨rfl, rfl⟩
  obtain ⟨path, filled⟩ := paints_discs
    ⟨{ c.pen with fillStyle := Style.trailDotFill }, line, c.saved⟩ dots Style.trailDotRadius
  refine ⟨path, ?_⟩
  rw [trail_cons]
  exact entered.append ((paints_polyline _ v first rest).append (left.append filled))

theorem trail_eq (v : View) {points : List Point} (some : points ≠ []) :
    trail v points =
      entering v ++ (.beginPath :: (lineThrough (points.map v.project) ++ [.stroke])) ++ leaving ++
        dots v points := by
  obtain ⟨first, rest, rfl⟩ := List.exists_cons_of_ne_nil some
  rw [trail_cons, polyline_eq, List.append_assoc, List.append_assoc]

theorem contains_bounds {v : View} {p : Point} (shown : v.contains p = true) :
    (p.x.isNaN = false ∧ 0 ≤ p.x ∧ p.x ≤ v.width) ∧
      p.y.isNaN = false ∧ 0 ≤ p.y ∧ p.y ≤ v.height := by
  obtain ⟨across, down⟩ := View.contains_iff.mp shown
  exact ⟨⟨(Number.le_iff.mp across.1).2.1, across⟩, (Number.le_iff.mp down.1).2.1, down⟩

/-- A trail of any points, drawn on any surface and without a call being refused. One line goes through
the places of all points in order, with the rectangle of the canvas as an additional clip, which is gone
when the line is done. Then there is one disc for each multiple of the stride that is the number of a
point whose place is on the canvas. Of less than 20 points each one is a candidate for a disc, of more
there are from 20 to 39, and of 380 or more at most 21. -/
theorem trail_painted (v : View) {points : List Point} (some : points ≠ [])
    {breakage? : Option Breakage}
    (carried : ((Drawing.trail v points).performance breakage?).error? = none) (c : Surface) :
    let told := ((Drawing.trail v points).performance breakage?).performed
    let places := points.map v.project
    let n := points.length
    let candidates := Trail.multiples (Trail.stride n) n
    let dots := (Trail.pick places candidates).filter v.contains
    let inside : Setting := { c.pen.setting with
      clip := outline c.pen.transform [.rect ⟨0, 0⟩ v.width v.height] :: c.pen.clip }
    ((Drawing.trail v points).performance none).error? = none ∧
      told = entering v ++ (.beginPath :: (lineThrough places ++ [.stroke])) ++ leaving ++
        dots.flatMap (fun p => disc p Style.trailDotRadius) ∧
      c.paintings told =
        .stroke (outline c.pen.transform (lineThrough places)) Style.trailStroke
            Style.trailLineWidth "round" "round" inside ::
          dots.map (fun p => .fill (outline c.pen.transform [circle p Style.trailDotRadius])
            Style.trailDotFill c.pen.setting) ∧
      (∃ path, c.run told = { c with pen.fillStyle := Style.trailDotFill, path }) ∧
      (∀ p ∈ dots, (p.x.isNaN = false ∧ 0 ≤ p.x ∧ p.x ≤ v.width) ∧
        p.y.isNaN = false ∧ 0 ≤ p.y ∧ p.y ≤ v.height) ∧
      (n < 20 → candidates.length = n) ∧
      (20 ≤ n → 20 ≤ candidates.length ∧ candidates.length ≤ 39) ∧
      (380 ≤ n → candidates.length ≤ 21) := by
  intro told places n candidates dots inside
  have draws := Drawing.draws_trail v points
  have told_eq : told = trail v points := by
    have played := draws.performance_eq breakage?
    rw [played] at carried
    rw [← performed_of_error? carried, ← played]
  have dots_eq : dots = ((Trail.dotCandidates points).map v.project).filter v.contains := by
    rw [Trail.dotCandidates_eq, ← Trail.pick_map]
  obtain ⟨path, painted⟩ := paints_trail c v some
  rw [told_eq, dots_eq]
  refine ⟨?_, ?_, painted.paintings_eq, ⟨path, painted.run_eq⟩, ?_, Trail.length_candidates_of_lt,
    fun long => ?_, Trail.length_candidates_le⟩
  · rw [draws.performance_eq, play_none]
  · exact trail_eq v some
  · exact fun p member => contains_bounds (List.mem_filter.mp member).2
  · obtain ⟨least, most⟩ := Trail.length_candidates_of_le long
    exact ⟨least, Nat.le_of_lt_succ most⟩

/-- The second of three positions is missing and the third is off the canvas, so that only the first one
has a dot, and the second arc, which would be refused, is not reached. -/
theorem trail_of_lost_position_painted :
    let v : View := ⟨100, 100, 20, 0.9⟩
    let points : List Point := [.origin, ⟨0 / 0, 0⟩, ⟨30, 0⟩]
    let told := (Drawing.trail v points).performance (some ⟨"arc", 2, "out of memory"⟩)
    let blank : Surface :=
      ⟨⟨"#000000", "#000000", 1, "butt", "miter", "10px sans-serif", "start",
        ⟨"rgba(0, 0, 0, 0)", 0, 0, 0⟩, ⟨1, 0, 0, 1, 0, 0⟩, []⟩, [], []⟩
    points ≠ [] ∧ told.error? = none ∧ (blank.paintings told.performed).length = 2 ∧
      (blank.run told.performed).pen.clip = [] := by
  intro v points told blank
  have some : points ≠ [] := by simp [points]
  have carried : told.error? = none := by decide +kernel
  obtain ⟨-, -, painted, ⟨path, ran⟩, -⟩ := trail_painted v some carried blank
  refine ⟨some, carried, ?_, ?_⟩
  · rw [painted]
    decide +kernel
  · rw [ran]

end Picture

end PositionMap
