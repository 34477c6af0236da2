import PositionMap.Proofs.Picture.Layers
import PositionMap.Proofs.Picture.Outlook

/-! # A picture does not depend on what was drawn before

Every layer of a picture is accepted on a canvas of which nothing but the base is known. So a frame
that does not fail paints the same on whatever canvas it starts, and leaves the base as it was: the
next frame starts on as good a canvas.
-/

namespace PositionMap

open Canvas

namespace Picture

/-- With the background, the fill style and the transform are known. -/
def onGround (path : Bool) : Outlook :=
  ⟨⟨true, false, false, false, false, true, true⟩, path, []⟩

/-- With the styles of the grid, the stroke style and the line width are, too. -/
def onGrid (path : Bool) : Outlook :=
  ⟨⟨true, true, true, false, false, true, true⟩, path, []⟩

def settled : Outlook :=
  ⟨⟨true, true, true, true, true, true, true⟩, true, []⟩

/-- While the trail is drawn, caps, joins and clip are not what they were. -/
def clipped : Outlook :=
  ⟨⟨true, true, true, true, true, true, false⟩, true, [settled.pen]⟩

theorem after_background (s : Scene) : Outlook.start.after (background s) = some (onGround false) :=
  rfl

theorem after_gridLines (v : View) (meters : Float) (path : Bool) :
    (onGrid path).after (gridLines v meters) = some (onGrid true) := by
  unfold gridLines
  split <;> rfl

/-- Without grid lines, no path is begun. -/
theorem after_grid (v : View) : ∃ path, (onGround false).after (grid v) = some (onGrid path) := by
  have styled : (onGround false).after [.strokeStyle Style.gridStroke, .lineWidth Style.gridLineWidth] =
      some (onGrid false) := rfl
  unfold grid
  rw [Outlook.after_of_after styled]
  cases v.gridOffsets with
  | nil => exact ⟨false, rfl⟩
  | cons meters rest =>
      refine ⟨true, ?_⟩
      rw [List.flatMap_cons, Outlook.after_of_after (after_gridLines v meters false)]
      exact Outlook.after_flatMap rest fun meters => after_gridLines v meters true

theorem after_axes (v : View) (path : Bool) : (onGrid path).after (axes v) = some settled := rfl

theorem after_entering (v : View) : settled.after (entering v) = some clipped := rfl

theorem after_leaving : clipped.after leaving = some settled := rfl

theorem after_polyline (v : View) (first : Point) (rest : List Point) :
    clipped.after (polyline v first rest) = some clipped := by
  have begun : clipped.after [.beginPath, .moveTo (v.project first)] = some clipped := rfl
  have lines : clipped.after (rest.map fun p => .lineTo (v.project p)) = some clipped := by
    rw [List.map_eq_flatMap]
    exact Outlook.after_flatMap rest fun _ => rfl
  unfold polyline
  rw [List.append_assoc, Outlook.after_of_after begun, Outlook.after_of_after lines]
  rfl

theorem after_dots (v : View) (points : List Point) :
    settled.after (dots v points) = some settled :=
  Outlook.after_flatMap _ fun _ => rfl

theorem after_trail (v : View) (points : List Point) :
    settled.after (trail v points) = some settled := by
  cases points with
  | nil => rfl
  | cons first rest =>
      rw [trail_cons, Outlook.after_of_after (after_entering v),
        Outlook.after_of_after (after_polyline v first rest),
        Outlook.after_of_after after_leaving, after_dots]

theorem after_marker (center : Point) : settled.after (marker center) = some settled := rfl

theorem after_beneath (s : Scene) : Outlook.start.after (beneath s) = some settled := by
  obtain ⟨path, grid⟩ := after_grid s.view
  unfold beneath ground
  rw [List.append_assoc, List.append_assoc, Outlook.after_of_after (after_background s),
    Outlook.after_of_after grid, Outlook.after_of_after (after_axes s.view path), after_trail]

theorem after_picture (s : Scene) : Outlook.start.after s.picture = some settled := by
  rw [s.picture_eq, Outlook.after_of_after (after_beneath s), top]
  cases s.marker? with
  | none => rfl
  | some center => exact after_marker center

/-! ## Frames -/

structure Frame where
  scene : Scene
  breakage? : Option Breakage

def Frame.performance (f : Frame) : Performance :=
  play f.breakage? f.scene.picture

theorem Frame.accepted {f : Frame} (drawn : f.performance.error? = none) :
    Outlook.start.after f.performance.performed = some settled := by
  rw [Frame.performance, performed_of_error? drawn]
  exact after_picture f.scene

theorem Frame.base_run {f : Frame} (drawn : f.performance.error? = none) (c : Surface) :
    (c.run f.performance.performed).pen.base = c.pen.base :=
  ((since_start c).run (Frame.accepted drawn)).base rfl

theorem Frame.paintings_eq {f : Frame} (drawn : f.performance.error? = none) {a b : Surface}
    (same : a.pen.base = b.pen.base) :
    a.paintings f.performance.performed = b.paintings f.performance.performed :=
  (agree_start same).paintings (Frame.accepted drawn)

theorem paintingsEach_eq (frames : List Frame) (drawn : ∀ f ∈ frames, f.performance.error? = none)
    {a b : Surface} (same : a.pen.base = b.pen.base) :
    a.paintingsEach (frames.map fun f => f.performance.performed) =
      frames.map fun f => b.paintings f.performance.performed := by
  induction frames generalizing a with
  | nil => rfl
  | cons f frames ih =>
      have first := drawn f List.mem_cons_self
      have rest := ih (fun f member => drawn f (List.mem_cons_of_mem _ member))
        ((Frame.base_run first a).trans same)
      exact congrArg₂ List.cons (Frame.paintings_eq first same) rest

/-- Frames that do not fail: each leaves what was put aside as it was, at no point having touched it,
and ends with the caps, joins, shadow and clip with which it began. Each paints the same, call by call
and with the same value of everything that the call uses, on all canvases with the same caps, joins,
shadow and clip. So a run of frames paints each of them as if it were the only one. -/
theorem frames_painted_afresh (frames : List Frame)
    (drawn : ∀ f ∈ frames, f.performance.error? = none) :
    (∀ f ∈ frames, ∀ c : Surface,
      (∀ n, c.saved <:+ (c.run (f.performance.performed.take n)).saved) ∧
        (c.run f.performance.performed).saved = c.saved ∧
        (c.run f.performance.performed).pen.base = c.pen.base) ∧
    (∀ f ∈ frames, ∀ a b : Surface, a.pen.base = b.pen.base →
      a.paintings f.performance.performed = b.paintings f.performance.performed) ∧
    ∀ a b : Surface, a.pen.base = b.pen.base →
      a.paintingsEach (frames.map fun f => f.performance.performed) =
        frames.map fun f => b.paintings f.performance.performed := by
  refine ⟨fun f member c => ⟨fun n => ?_, ?_, ?_⟩, fun f member a b same => ?_, fun a b same => ?_⟩
  · obtain ⟨middle, begun⟩ := Outlook.after_take (Frame.accepted (drawn f member)) n
    exact ((since_start c).run begun).suffix
  · exact ((since_start c).run (Frame.accepted (drawn f member))).saved_eq rfl
  · exact Frame.base_run (drawn f member) c
  · exact Frame.paintings_eq (drawn f member) same
  · exact paintingsEach_eq frames drawn same

/-- The first frame has no trail, the second one has, and a call that would fail is not reached. -/
theorem two_frames_painted_afresh :
    let bare : Scene := { Scene.ofSettings .default with view := ⟨100, 100, 20, 0.9⟩ }
    let moved := bare.applyAll [.position ⟨3, 4⟩, .position ⟨3, 5⟩]
    let frames : List Frame := [⟨bare, none⟩, ⟨moved, some ⟨"arc", 6, "out of memory"⟩⟩]
    let blank : Surface :=
      ⟨⟨"#000000", "#000000", 1, "butt", "miter", "10px sans-serif", "start",
        ⟨"rgba(0, 0, 0, 0)", 0, 0, 0⟩, ⟨1, 0, 0, 1, 0, 0⟩, []⟩, [], []⟩
    (∀ f ∈ frames, f.performance.error? = none) ∧
      blank.paintingsEach (frames.map fun f => f.performance.performed) =
        frames.map fun f => blank.paintings f.performance.performed := by
  intro bare moved frames blank
  have drawn : ∀ f ∈ frames, f.performance.error? = none := by decide +kernel
  exact ⟨drawn, (frames_painted_afresh frames drawn).2.2 blank blank rfl⟩

end Picture

end PositionMap
