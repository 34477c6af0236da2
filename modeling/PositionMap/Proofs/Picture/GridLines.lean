import PositionMap.Proofs.Grid
import PositionMap.Proofs.Picture.Drawing
import PositionMap.Proofs.Picture.Layers

/-! # The lines of the grid

The grid is drawn between two stroke styles, its own and that of the axes, and nothing that the canvas
may refuse is called in between. It is drawn distance by distance: the lines through the origin once,
and for every other distance the lines on both sides of both axes.
-/

namespace PositionMap

open Canvas

inductive GridLine
  | vertical (x : Float)
  | horizontal (y : Float)

namespace GridLine

def ends (v : View) : GridLine → Point × Point
  | vertical x => (⟨x, 0⟩, ⟨x, v.height⟩)
  | horizontal y => (⟨0, y⟩, ⟨v.width, y⟩)

def commands (v : View) (line : GridLine) : List Command :=
  [.beginPath, .moveTo (line.ends v).1, .lineTo (line.ends v).2, .stroke]

end GridLine

namespace View

/-- The lines at a distance to the east and to the north of the origin. -/
def linesAhead (v : View) (meters : Float) : List GridLine :=
  [.vertical (v.center.x + v.pixels meters), .horizontal (v.center.y - v.pixels meters)]

def linesBehind (v : View) (meters : Float) : List GridLine :=
  [.vertical (v.center.x - v.pixels meters), .horizontal (v.center.y + v.pixels meters)]

def linesAt (v : View) (meters : Float) : List GridLine :=
  v.linesAhead meters ++ if 0 < meters then v.linesBehind meters else []

def lines (v : View) : List GridLine :=
  v.gridOffsets.flatMap v.linesAt

variable {v : View} {meters : Float}

theorem linesAt_of_pos (positive : 0 < meters) :
    v.linesAt meters = v.linesAhead meters ++ v.linesBehind meters := by
  rw [linesAt, if_pos positive]

theorem linesAt_zero (v : View) : v.linesAt 0 = v.linesAhead 0 := by
  have none : ¬ (0 : Float) < 0 := by decide +kernel
  rw [linesAt, if_neg none, List.append_nil]

theorem gridOffsets_eq_cons (finite : v.scale.isFinite = true) (length : 0 ≤ v.scale) :
    ∃ others, v.gridOffsets = 0 :: others ∧ ∀ meters ∈ others, 0 < meters := by
  obtain ⟨others, offsets⟩ := List.head?_eq_some_iff.mp (head?_gridOffsets finite length)
  have ordered := pairwise_gridOffsets finite length
  rw [offsets] at ordered
  exact ⟨others, offsets, fun _ => List.rel_of_pairwise_cons ordered⟩

theorem flatMap_linesAt {offsets : List Float} (positive : ∀ meters ∈ offsets, 0 < meters) :
    offsets.flatMap v.linesAt =
      offsets.flatMap fun meters => v.linesAhead meters ++ v.linesBehind meters :=
  List.flatMap_congr fun meters member => linesAt_of_pos (positive meters member)

/-- Four lines for each distance but the first, which has two. -/
theorem length_lines (finite : v.scale.isFinite = true) (length : 0 ≤ v.scale) :
    v.lines.length = 2 + 4 * (v.gridOffsets.length - 1) := by
  obtain ⟨others, offsets, positive⟩ := gridOffsets_eq_cons finite length
  have four : ∀ meters, (v.linesAhead meters ++ v.linesBehind meters).length = 4 := fun _ => rfl
  have two : (v.linesAhead 0).length = 2 := rfl
  rw [lines, offsets, List.flatMap_cons, linesAt_zero, flatMap_linesAt positive, List.length_append,
    two, List.length_flatMap, List.map_congr_left fun meters _ => four meters, List.map_const',
    List.sum_replicate_nat, List.length_cons]
  omega

theorem lines_of_not_length (other : ¬ (v.scale.isFinite = true ∧ 0 ≤ v.scale)) : v.lines = [] := by
  rw [lines, gridOffsets_of_not_length other, List.flatMap_nil]

theorem length_lines_le (v : View) : v.lines.length ≤ 3998 := by
  by_cases valid : v.scale.isFinite = true ∧ 0 ≤ v.scale
  · have few : v.lineCount ≤ maxGridLines := min_le_left _ _
    rw [length_lines valid.1 valid.2, length_gridOffsets valid.1 valid.2]
    unfold maxGridLines at few
    omega
  · rw [lines_of_not_length valid]
    exact Nat.zero_le _

end View

namespace Picture

/-- What is drawn before the axes: the background, the style of the grid and its lines. -/
def beforeAxes (s : Scene) : List Command :=
  background s ++ [.strokeStyle Style.gridStroke, .lineWidth Style.gridLineWidth] ++
    s.view.lines.flatMap (GridLine.commands s.view)

def fromAxes (s : Scene) : List Command :=
  (axes s.view).drop 1 ++ trail s.view s.trail.points.toList ++ top s

theorem gridLines_eq (v : View) (meters : Float) :
    gridLines v meters = (v.linesAt meters).flatMap (GridLine.commands v) := by
  unfold gridLines View.linesAt
  split <;> rfl

theorem grid_eq (v : View) :
    grid v = [.strokeStyle Style.gridStroke, .lineWidth Style.gridLineWidth] ++
      v.lines.flatMap (GridLine.commands v) := by
  have each : gridLines v = fun meters => (v.linesAt meters).flatMap (GridLine.commands v) :=
    funext (gridLines_eq v)
  rw [grid, each, ← List.flatMap_assoc]
  rfl

theorem picture_eq_beforeAxes (s : Scene) :
    s.picture = beforeAxes s ++ .strokeStyle Style.axisStroke :: fromAxes s := by
  have style : axes s.view = .strokeStyle Style.axisStroke :: (axes s.view).drop 1 := rfl
  rw [s.picture_eq, beneath, ground, grid_eq, style, beforeAxes, fromAxes]
  simp only [List.append_assoc, List.cons_append]

theorem fallible_beforeAxes {s : Scene} {command : Command} (member : command ∈ (beforeAxes s).tail) :
    command.fallible = false := by
  have commands : (beforeAxes s).tail =
      [.fillStyle Style.background, .fillRect ⟨0, 0⟩ s.view.width s.view.height,
        .strokeStyle Style.gridStroke, .lineWidth Style.gridLineWidth] ++
      s.view.lines.flatMap (GridLine.commands s.view) := rfl
  rw [commands] at member
  rcases List.mem_append.mp member with style | line
  · simp only [List.mem_cons, List.not_mem_nil, or_false] at style
    rcases style with rfl | rfl | rfl | rfl <;> rfl
  · obtain ⟨line, -, drawn⟩ := List.mem_flatMap.mp line
    simp only [GridLine.commands, List.mem_cons, List.not_mem_nil, or_false] at drawn
    rcases drawn with rfl | rfl | rfl | rfl <;> rfl

end Picture

open Picture

/-- A drawing that is not broken off at its first call comes to the axes. -/
theorem Scene.performed_beforeAxes (s : Scene) (breakage? : Option Breakage) :
    ((s.drawn breakage?).performed = [.setTransform s.ratio 0 0 s.ratio 0 0] ∧
        (s.drawn breakage?).error?.isSome = true) ∨
      ∃ after, (s.drawn breakage?).performed =
        beforeAxes s ++ .strokeStyle Style.axisStroke :: after := by
  have start : beforeAxes s = .setTransform s.ratio 0 0 s.ratio 0 0 :: (beforeAxes s).tail := rfl
  rw [s.drawn_eq_play, picture_eq_beforeAxes]
  cases breakage? with
  | none => exact .inr ⟨fromAxes s, by rw [play_none]⟩
  | some b =>
      rw [play_append]
      rcases play_cases b (beforeAxes s) with ⟨-, carried⟩ | ⟨front, last, rest, split, refuses, played⟩
      · have style (b : Breakage) : ∃ after,
            (play (some b) (.strokeStyle Style.axisStroke :: fromAxes s)).performed =
              .strokeStyle Style.axisStroke :: after := by
          have spared : ¬ b.Due (.strokeStyle Style.axisStroke) := fun due => by cases due.1
          exact ⟨_, by rw [play_carried spared]⟩
        obtain ⟨after, told⟩ := style { b with countdown := b.countdown - (beforeAxes s).countP b.concerns }
        rw [carried]
        exact .inr ⟨after, congrArg (beforeAxes s ++ ·) told⟩
      · -- no other command before the axes is one that may be refused
        rw [played]
        rw [start] at split
        cases front with
        | nil =>
            rw [List.nil_append, List.cons.injEq] at split
            exact .inl ⟨by rw [split.1]; rfl, rfl⟩
        | cons first front =>
            rw [List.cons_append, List.cons.injEq] at split
            have sure : last.fallible = false := fallible_beforeAxes (by rw [split.2]; simp)
            have concerned := refuses.1
            rw [Breakage.concerns, sure, Bool.false_and] at concerned
            cases concerned

/-- The drawing of any scene, whichever call is refused. Unless that is the very first one, there are
between the style of the grid and that of the axes exactly the lines of the grid, each stroked by itself:
for one distance after the other, the vertical line to the east and the horizontal one to the north, and
for a positive distance then those to the west and to the south. With a scale that is a length, zero is
the first distance and every other one is positive, so that there are two lines through the origin and
four for each other distance. There are never more than 3998 lines. With any other scale there are none,
and the axes are drawn all the same. -/
theorem Scene.grid_lines_drawn (s : Scene) (breakage? : Option Breakage) :
    let v := s.view
    let drawn := s.drawn breakage?
    let style := [Command.strokeStyle Style.gridStroke, .lineWidth Style.gridLineWidth]
    ((drawn.performed = [.setTransform s.ratio 0 0 s.ratio 0 0] ∧ drawn.error?.isSome = true) ∨
        ∃ after, drawn.performed = background s ++ style ++
          (v.gridOffsets.flatMap v.linesAt).flatMap (GridLine.commands v) ++
            .strokeStyle Style.axisStroke :: after) ∧
      (v.scale.isFinite = true → 0 ≤ v.scale →
        ∃ others, v.gridOffsets = 0 :: others ∧ (∀ meters ∈ others, 0 < meters) ∧
          v.lines = v.linesAhead 0 ++
            others.flatMap (fun meters => v.linesAhead meters ++ v.linesBehind meters) ∧
          v.lines.length = 2 + 4 * (v.gridOffsets.length - 1)) ∧
      v.lines.length ≤ 3998 ∧
      (¬ (v.scale.isFinite = true ∧ 0 ≤ v.scale) → v.lines = [] ∧
        (drawn.error? = none → ∃ after, drawn.performed = background s ++ style ++ axes v ++ after)) := by
  intro v drawn style
  refine ⟨s.performed_beforeAxes breakage?, fun finite length => ?_, v.length_lines_le, fun other => ?_⟩
  · obtain ⟨others, offsets, positive⟩ := View.gridOffsets_eq_cons finite length
    refine ⟨others, offsets, positive, ?_, View.length_lines finite length⟩
    rw [View.lines, offsets, List.flatMap_cons, View.linesAt_zero, View.flatMap_linesAt positive]
  · have none : v.lines = [] := View.lines_of_not_length other
    refine ⟨none, fun complete => ⟨Picture.trail v s.trail.points.toList ++ top s, ?_⟩⟩
    have played : drawn = play breakage? s.picture := s.drawn_eq_play breakage?
    rw [played] at complete
    rw [played, performed_of_error? complete, s.picture_eq, beneath, ground, grid_eq, none]
    simp only [style, List.flatMap_nil, List.append_nil, List.append_assoc]
    rfl

/-- A scale of 2 m has the distances 0, 0.5, 1, 1.5 and 2 and so 18 lines, and a scale that is no number
has none. -/
theorem Scene.grid_lines_of_two :
    let near := { ofSettings .default with view := ⟨100, 100, 2, 0.9⟩ }
    let lost := { ofSettings .default with view := ⟨100, 100, 0 / 0, 0.9⟩ }
    near.view.scale.isFinite = true ∧ 0 ≤ near.view.scale ∧ near.view.lines.length = 18 ∧
      ¬ (lost.view.scale.isFinite = true ∧ 0 ≤ lost.view.scale) ∧ lost.view.lines = [] ∧
      (lost.drawn none).error? = none ∧
      (axes lost.view).length < (lost.drawn none).performed.length := by
  intro near lost
  have finite : near.view.scale.isFinite = true := by decide +kernel
  have length : 0 ≤ near.view.scale := by decide +kernel
  have five : near.view.gridOffsets.length = 5 := by decide +kernel
  have other : ¬ (lost.view.scale.isFinite = true ∧ 0 ≤ lost.view.scale) := by decide +kernel
  have complete : (lost.drawn none).error? = none := by decide +kernel
  obtain ⟨-, valid, -⟩ := grid_lines_drawn near none
  obtain ⟨-, -, -, -, count⟩ := valid finite length
  obtain ⟨-, -, -, invalid⟩ := grid_lines_drawn lost none
  obtain ⟨nothing, drawn⟩ := invalid other
  obtain ⟨after, told⟩ := drawn complete
  refine ⟨finite, length, by rw [count, five], other, nothing, complete, ?_⟩
  rw [told]
  simp only [List.length_append, background, List.length_cons, List.length_nil]
  omega

end PositionMap
