import PositionMap.Proofs.History
import PositionMap.Proofs.Picture.Drawing
import PositionMap.Proofs.Picture.Layers

/-! # The marker is at the end of the trail

The trail is drawn from the points that a scene keeps, the marker from the position that it keeps.
After any inputs the two agree: the line ends where the marker is drawn, whether or not that is on the
canvas. As long as no position was reported and nothing was reset there is no trail, and the marker is
at the place of the origin.
-/

namespace PositionMap

open Canvas

namespace Canvas

namespace Command

/-- The commands that no layer but the trail makes. -/
def ofTrail : Command → Bool
  | .strokeStyle style => style == Style.trailStroke
  | .fillStyle style => style == Style.trailDotFill
  | .lineCap _ | .lineJoin _ | .rect .. | .clip => true
  | _ => false

def isVertex : Command → Bool
  | .moveTo _ | .lineTo _ => true
  | _ => false

def isStroke : Command → Bool
  | .stroke => true
  | _ => false

def setsStroke (style : String) : Command → Bool
  | .strokeStyle set => set == style
  | _ => false

def setsFill (style : String) : Command → Bool
  | .fillStyle set => set == style
  | _ => false

end Command

/-- The vertices of the line that is stroked first in a style. -/
def traced (style : String) (commands : List Command) : List Command :=
  ((commands.dropWhile fun command => !command.setsStroke style).takeWhile
    fun command => !command.isStroke).filter Command.isVertex

/-- What follows the fill style when it is set first. -/
def pastFill (style : String) (commands : List Command) : List Command :=
  (commands.dropWhile fun command => !command.setsFill style).drop 1

end Canvas

namespace Picture

variable {command : Command}

theorem ofTrail_of_all (commands : List Command)
    (plain : commands.all (fun command => !command.ofTrail) = true) (member : command ∈ commands) :
    command.ofTrail = false := by
  simpa using List.all_eq_true.mp plain command member

theorem ofTrail_ground {s : Scene} (member : command ∈ ground s) : command.ofTrail = false := by
  rcases List.mem_append.mp member with below | axis
  · rcases List.mem_append.mp below with back | line
    · exact ofTrail_of_all (background s) rfl back
    · rcases mem_grid line with rfl | rfl | line
      · rfl
      · rfl
      · cases line <;> rfl
  · exact ofTrail_of_all (axes s.view) rfl axis

theorem ofTrail_top {s : Scene} (member : command ∈ top s) : command.ofTrail = false := by
  rw [top_eq] at member
  split at member
  · exact ofTrail_of_all (marker s.place) rfl member
  · simp at member

/-- What only the trail sets is not set by the ground. -/
theorem dropWhile_ground {sets : Command → Bool}
    (only : ∀ command, sets command = true → command.ofTrail = true) (s : Scene)
    (rest : List Command) :
    (ground s ++ rest).dropWhile (fun command => !sets command) =
      rest.dropWhile fun command => !sets command := by
  refine List.dropWhile_append_of_pos fun command member => ?_
  cases set : sets command with
  | false => rfl
  | true => exact absurd (only command set) (by simp [ofTrail_ground member])

theorem ofTrail_of_setsStroke (set : command.setsStroke Style.trailStroke = true) :
    command.ofTrail = true := by
  cases command <;> first | exact set | cases set

theorem ofTrail_of_setsFill (set : command.setsFill Style.trailDotFill = true) :
    command.ofTrail = true := by
  cases command <;> first | exact set | cases set

theorem picture_of_points {s : Scene} {first : Point} {rest : List Point}
    (points : s.trail.points.toList = first :: rest) :
    s.picture = ground s ++ (entering s.view ++ (polyline s.view first rest ++ (leaving ++
      ((s.dots.flatMap fun p => disc p Style.trailDotRadius) ++ top s)))) := by
  rw [s.picture_eq, beneath, Scene.dots, points, trail_cons]
  simp only [List.append_assoc, dots]

theorem traced_picture {s : Scene} {first : Point} {rest : List Point}
    (points : s.trail.points.toList = first :: rest) :
    traced Style.trailStroke s.picture =
      .moveTo (s.view.project first) :: rest.map fun p => .lineTo (s.view.project p) := by
  rw [traced, picture_of_points points, dropWhile_ground fun _ => ofTrail_of_setsStroke]
  simp [entering, Command.setsStroke, Command.isStroke, Command.isVertex, polyline]

/-- The dots of the trail are the last but the marker. -/
theorem pastFill_picture {s : Scene} {first : Point} {rest : List Point}
    (points : s.trail.points.toList = first :: rest) :
    pastFill Style.trailDotFill s.picture =
      (s.dots.flatMap fun p => disc p Style.trailDotRadius) ++ top s := by
  have entered : ∀ command ∈ entering s.view,
      (!command.setsFill Style.trailDotFill) = true := by
    simp [entering, Command.setsFill]
  have lines : ∀ command ∈ polyline s.view first rest,
      (!command.setsFill Style.trailDotFill) = true := by
    intro command member
    cases ofLine_of_mem_polyline member <;> rfl
  rw [pastFill, picture_of_points points, dropWhile_ground fun _ => ofTrail_of_setsFill,
    List.dropWhile_append_of_pos entered, List.dropWhile_append_of_pos lines]
  rfl

theorem picture_of_unset {s : Scene} (unset : s.trail.points = #[]) :
    s.picture = ground s ++ top s := by
  rw [s.picture_eq, beneath, unset]
  exact congrArg (· ++ top s) (List.append_nil _)

theorem getLast?_vertices (v : View) {first last : Point} {rest : List Point}
    (ends : (first :: rest).getLast? = some last) :
    (Command.moveTo (v.project first) :: rest.map fun p => .lineTo (v.project p)).getLast? =
      some (if (first :: rest).length = 1 then .moveTo (v.project last)
        else .lineTo (v.project last)) := by
  rcases List.eq_nil_or_concat rest with rfl | ⟨front, final, rfl⟩
  · obtain rfl : first = last := by simpa using ends
    rfl
  · obtain rfl : final = last := by simpa [List.getLast?_cons] using ends
    simp [List.getLast?_cons]

end Picture

open Picture

namespace Scene

/-- A scene after any inputs that is drawn without an error. Once a position was reported or the origin
reset, the line of the trail ends at the place of the current position, and after the fill style of the
dots there are only those and, at that place, the marker, unless the place is off the canvas. Before
that, nothing of a trail is drawn, and the marker at the place of the origin. -/
theorem marker_at_end_of_trail (settings : Settings) (inputs : List Input)
    (breakage? : Option Breakage) :
    let s := (ofSettings settings).applyAll inputs
    let drawn := s.drawn breakage?
    drawn.error? = none →
      let told := drawn.performed
      let marked := s.view.contains s.place
      (arcs told = circle s.view.center Style.originDotRadius ::
        (s.dots.map (circle · Style.trailDotRadius) ++ if marked then
          [circle s.place Style.markerRadius, circle s.place Style.markerCenterRadius] else [])) ∧
      (s.trail.anchored = true →
        (traced Style.trailStroke told).getLast? =
          some (if s.trail.points.size = 1 then .moveTo s.place else .lineTo s.place) ∧
        pastFill Style.trailDotFill told =
          (s.dots.flatMap fun p => disc p Style.trailDotRadius) ++
            if marked then marker s.place else []) ∧
      (s.trail.anchored = false →
        s.place = s.view.project .origin ∧ (∀ command ∈ told, command.ofTrail = false) ∧
        told = ground s ++ if marked then marker s.place else []) := by
  intro s drawn complete told marked
  have known : s.trail.Recounts (history inputs) := recounts_applyAll settings inputs
  have told_eq : told = s.picture := by
    have played : drawn = play breakage? s.picture := s.drawn_eq_play breakage?
    rw [played] at complete
    rw [← performed_of_error? complete, ← played]
  rw [told_eq]
  refine ⟨?_, fun set => ?_, fun unset => ?_⟩
  · rw [s.picture_eq, arcs_append, arcs_beneath, arcs_top]
    rfl
  · have last : s.trail.points.toList.getLast? = some s.trail.position := by
      rw [Array.getLast?_toList]
      exact known.last set
    rw [← Array.length_toList]
    cases points : s.trail.points.toList with
    | nil => simp [points] at last
    | cons first rest =>
        rw [traced_picture points, pastFill_picture points, top_eq]
        exact ⟨getLast?_vertices s.view (points ▸ last), rfl⟩
  · have none : s.trail.points = #[] := known.unset unset
    have nothing : history inputs = [] := by simpa [unset] using known.anchored
    have position : s.trail.position = .origin := by rw [known.position, nothing]; rfl
    have split : s.picture = ground s ++ top s := picture_of_unset none
    refine ⟨congrArg s.view.project position, fun command member => ?_, ?_⟩
    · rw [split] at member
      exact (List.mem_append.mp member).elim ofTrail_ground ofTrail_top
    · rw [split, top_eq]

/-- There are five arcs, none of which is refused. -/
theorem marker_at_end_of_two_positions :
    let s := (ofSettings .default).applyAll [.size ⟨100, 100, 1⟩, .position ⟨3, 4⟩, .position ⟨3, 5⟩]
    let drawn := s.drawn (some ⟨"arc", 6, "out of memory"⟩)
    drawn.error? = none ∧ s.trail.anchored = true ∧ s.view.contains s.place = true ∧
      (arcs drawn.performed).length = 5 ∧
      (traced Style.trailStroke drawn.performed).getLast? = some (.lineTo s.place) := by
  intro s drawn
  have complete : drawn.error? = none := by decide +kernel
  have set : s.trail.anchored = true := by decide +kernel
  have marked : s.view.contains s.place = true := by decide +kernel
  have several : s.trail.points.size ≠ 1 := by decide +kernel
  obtain ⟨discs, ends, -⟩ := marker_at_end_of_trail .default _ _ complete
  refine ⟨complete, set, marked, ?_, ?_⟩
  · rw [discs]
    decide +kernel
  · rw [(ends set).1, if_neg several]

end Scene

end PositionMap
