import PositionMap.Picture
import PositionMap.Proofs.Picture.Refusal

/-! # The layers of a picture

A picture is the ground, which shows no positions, the trail on it, and on top the marker, unless it is
off the canvas. All of its discs: one in the middle of the axes, those along the trail, and the two of
the marker.
-/

namespace PositionMap

open Canvas

namespace Picture

def ground (s : Scene) : List Command :=
  background s ++ grid s.view ++ axes s.view

def beneath (s : Scene) : List Command :=
  ground s ++ trail s.view s.trail.points.toList

def top (s : Scene) : List Command :=
  match s.marker? with
  | some center => marker center
  | none => []

/-- The clip and the styles with which the line of the trail is drawn. -/
def entering (v : View) : List Command :=
  [.save, .beginPath, .rect ⟨0, 0⟩ v.width v.height, .clip, .strokeStyle Style.trailStroke,
    .lineWidth Style.trailLineWidth, .lineCap "round", .lineJoin "round"]

def leaving : List Command :=
  [.restore, .fillStyle Style.trailDotFill]

theorem trail_cons (v : View) (first : Point) (rest : List Point) :
    trail v (first :: rest) =
      entering v ++ (polyline v first rest ++ (leaving ++ dots v (first :: rest))) := by
  rw [trail, List.append_assoc, List.append_assoc]
  rfl

def circle (center : Point) (radius : Float) : Command :=
  .arc center radius 0 fullTurn

end Picture

theorem Scene.picture_eq (s : Scene) : s.picture = Picture.beneath s ++ Picture.top s := rfl

def Scene.dots (s : Scene) : List Point :=
  ((Trail.dotCandidates s.trail.points.toList).map s.view.project).filter s.view.contains

def Scene.place (s : Scene) : Point :=
  s.view.project s.trail.position

theorem Scene.marker?_eq (s : Scene) :
    s.marker? = if s.view.contains s.place then some s.place else none := rfl

namespace Canvas

inductive Command.OfLine : Command → Prop
  | beginPath : OfLine .beginPath
  | moveTo (p : Point) : OfLine (.moveTo p)
  | lineTo (p : Point) : OfLine (.lineTo p)
  | stroke : OfLine .stroke

def arcs (commands : List Command) : List Command :=
  commands.filter fun command => command.name == "arc"

theorem calls_arc (commands : List Command) : calls "arc" commands = (arcs commands).length :=
  List.countP_eq_length_filter

theorem arcs_append (first second : List Command) :
    arcs (first ++ second) = arcs first ++ arcs second :=
  List.filter_append ..

theorem arcs_flatMap {α : Type} (xs : List α) (f : α → List Command) :
    arcs (xs.flatMap f) = xs.flatMap fun x => arcs (f x) :=
  List.filter_flatMap ..

end Canvas

namespace Picture

variable {command : Command}

theorem ofLine_of_mem_polyline {v : View} {first : Point} {rest : List Point}
    (member : command ∈ polyline v first rest) : command.OfLine := by
  simp only [polyline, List.cons_append, List.nil_append, List.mem_cons, List.mem_append,
    List.mem_map, List.not_mem_nil, or_false] at member
  rcases member with rfl | rfl | ⟨p, _, rfl⟩ | rfl <;> constructor

theorem ofLine_of_mem_gridLines {v : View} {meters : Float}
    (member : command ∈ gridLines v meters) : command.OfLine := by
  have line (a b : Point) (member : command ∈ [.beginPath, .moveTo a, .lineTo b, .stroke]) :
      command.OfLine := by
    simp only [List.mem_cons, List.not_mem_nil, or_false] at member
    rcases member with rfl | rfl | rfl | rfl <;> constructor
  rcases List.mem_append.mp member with axis | mirrored
  · exact (List.mem_append.mp axis).elim (line _ _) (line _ _)
  · split at mirrored
    · exact (List.mem_append.mp mirrored).elim (line _ _) (line _ _)
    · simp at mirrored

/-- A grid is lines, all in one style. -/
theorem mem_grid {v : View} (member : command ∈ grid v) :
    command = .strokeStyle Style.gridStroke ∨ command = .lineWidth Style.gridLineWidth ∨
      command.OfLine := by
  rcases List.mem_append.mp member with style | line
  · simp only [List.mem_cons, List.not_mem_nil, or_false] at style
    exact style.imp_right .inl
  · obtain ⟨meters, _, drawn⟩ := List.mem_flatMap.mp line
    exact .inr (.inr (ofLine_of_mem_gridLines drawn))

theorem arcs_grid (v : View) : arcs (grid v) = [] := by
  refine List.filter_eq_nil_iff.mpr fun command member => ?_
  rcases mem_grid member with rfl | rfl | line
  · simp [Command.name]
  · simp [Command.name]
  · cases line <;> simp [Command.name]

theorem arcs_ground (s : Scene) : arcs (ground s) = [circle s.view.center Style.originDotRadius] := by
  have background : arcs (background s) = [] := rfl
  have axes : arcs (axes s.view) = [circle s.view.center Style.originDotRadius] := rfl
  rw [ground, arcs_append, arcs_append, background, axes, arcs_grid]
  rfl

theorem arcs_polyline (v : View) (first : Point) (rest : List Point) :
    arcs (polyline v first rest) = [] := by
  refine List.filter_eq_nil_iff.mpr fun command member => ?_
  cases ofLine_of_mem_polyline member <;> simp [Command.name]

theorem arcs_trail (s : Scene) :
    arcs (trail s.view s.trail.points.toList) =
      s.dots.map fun p => circle p Style.trailDotRadius := by
  have drawn (points : List Point) : arcs (Picture.dots s.view points) =
      (((Trail.dotCandidates points).map s.view.project).filter s.view.contains).map
        fun p => circle p Style.trailDotRadius := by
    rw [dots, arcs_flatMap]
    exact List.map_eq_flatMap.symm
  unfold Scene.dots
  cases s.trail.points.toList with
  | nil => rfl
  | cons first rest =>
      rw [trail_cons, arcs_append, arcs_append, arcs_append, arcs_polyline, drawn]
      rfl

theorem arcs_beneath (s : Scene) :
    arcs (beneath s) = circle s.view.center Style.originDotRadius ::
      s.dots.map fun p => circle p Style.trailDotRadius := by
  rw [beneath, arcs_append, arcs_ground, arcs_trail]
  rfl

theorem top_eq (s : Scene) : top s = if s.view.contains s.place then marker s.place else [] := by
  rw [top, s.marker?_eq]
  by_cases shown : s.view.contains s.place
  · rw [if_pos shown, if_pos shown]
  · rw [if_neg shown, if_neg shown]

theorem arcs_top (s : Scene) :
    arcs (top s) = if s.view.contains s.place then
      [circle s.place Style.markerRadius, circle s.place Style.markerCenterRadius] else [] := by
  rw [top_eq, apply_ite arcs]
  rfl

end Picture

end PositionMap
