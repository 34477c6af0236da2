import PositionMap.Scene

/-! # The trail as a function of the history

Of all that a scene takes in, only new positions and resets concern the trail. The history of a
scene is the list of these marks. The trail is what the history says: the positions since the last
reset, with the one that was held at the reset in front of them.
-/

namespace PositionMap

namespace Trail

inductive Mark
  | moved (p : Point)
  | restarted

def Mark.point? : Mark → Option Point
  | moved p => some p
  | restarted => none

def mark (t : Trail) : Mark → Trail
  | .moved p => (t.moveTo p).1
  | .restarted => t.reset.1

/-- The positions of a history, oldest first. -/
def visited (history : List Mark) : List Point :=
  history.filterMap Mark.point?

def lastVisited (history : List Mark) : Point :=
  (visited history).getLast?.getD .origin

@[simp] theorem visited_nil : visited [] = [] := rfl

@[simp] theorem visited_append (before after : List Mark) :
    visited (before ++ after) = visited before ++ visited after :=
  List.filterMap_append

@[simp] theorem visited_moved (p : Point) : visited [.moved p] = [p] := rfl

@[simp] theorem visited_restarted : visited [.restarted] = [] := rfl

theorem lastVisited_moved (history : List Mark) (p : Point) :
    lastVisited (history ++ [.moved p]) = p := by
  simp [lastVisited]

theorem lastVisited_restarted (history : List Mark) :
    lastVisited (history ++ [.restarted]) = lastVisited history := by
  simp [lastVisited]

theorem restarted_notMem_moved (history : List Mark) (p : Point) :
    Mark.restarted ∉ history ++ [.moved p] ↔ Mark.restarted ∉ history := by
  simp

/-- The last reset of a history that goes on with a position is the last reset before it. -/
theorem split_of_append_moved {history before after : List Mark} {p : Point}
    (split : history ++ [.moved p] = before ++ .restarted :: after) :
    ∃ middle, after = middle ++ [.moved p] ∧ history = before ++ .restarted :: middle := by
  rcases List.eq_nil_or_concat after with rfl | ⟨middle, last, rfl⟩
  · obtain ⟨_, back⟩ := List.append_inj' split rfl
    simp at back
  · have regrouped : history ++ [.moved p] = (before ++ .restarted :: middle) ++ [last] := by
      simpa using split
    obtain ⟨front, back⟩ := List.append_inj' regrouped rfl
    cases back
    exact ⟨middle, by simp, front⟩

/-- The last reset of a history that ends with a reset is its last mark. -/
theorem split_of_append_restarted {history before after : List Mark}
    (split : history ++ [.restarted] = before ++ .restarted :: after)
    (last : Mark.restarted ∉ after) : after = [] ∧ history = before := by
  rcases List.eq_nil_or_concat after with rfl | ⟨middle, final, rfl⟩
  · exact ⟨rfl, (List.append_inj' split rfl).1⟩
  · have regrouped : history ++ [.restarted] = (before ++ .restarted :: middle) ++ [final] := by
      simpa using split
    obtain ⟨_, back⟩ := List.append_inj' regrouped rfl
    cases back
    simp at last

structure Recounts (t : Trail) (history : List Mark) : Prop where
  position : t.position = lastVisited history
  anchored : t.anchored = true ↔ history ≠ []
  last : t.anchored = true → t.points.back? = some t.position
  unset : t.anchored = false → t.points = #[]
  fresh : .restarted ∉ history → t.points.toList = visited history
  since : ∀ before after, history = before ++ .restarted :: after → .restarted ∉ after →
    t.points.toList = lastVisited before :: visited after

theorem recounts_start : start.Recounts [] where
  position := rfl
  anchored := by simp [start]
  last := by simp [start]
  unset := fun _ => rfl
  fresh := fun _ => rfl
  since := by simp

theorem Recounts.moved {t : Trail} {history : List Mark} (known : t.Recounts history)
    (p : Point) : (t.mark (.moved p)).Recounts (history ++ [.moved p]) where
  position := by rw [lastVisited_moved, mark, position_moveTo]
  anchored := by simp [mark, anchored_moveTo]
  last := by
    intro _
    rw [mark, position_moveTo, ← Array.getLast?_toList, points_moveTo]
    simp
  unset := by simp [mark, anchored_moveTo]
  fresh := by
    intro never
    rw [restarted_notMem_moved] at never
    rw [mark, points_moveTo, visited_append, visited_moved, ← known.fresh never]
    cases set : t.anchored with
    | true => simp
    | false => simp [known.unset set]
  since := by
    intro before after split last
    obtain ⟨middle, rfl, rfl⟩ := split_of_append_moved split
    rw [restarted_notMem_moved] at last
    have set : t.anchored = true := known.anchored.mpr (by simp)
    rw [mark, points_moveTo, if_pos set, known.since before middle rfl last]
    simp

theorem Recounts.restarted {t : Trail} {history : List Mark} (known : t.Recounts history) :
    (t.mark .restarted).Recounts (history ++ [.restarted]) where
  position := by
    rw [lastVisited_restarted]
    exact known.position
  anchored := by simp [mark, reset]
  last := by simp [mark, reset]
  unset := by simp [mark, reset]
  fresh := by simp
  since := by
    intro before after split last
    obtain ⟨rfl, rfl⟩ := split_of_append_restarted split last
    simp [mark, reset, known.position]

theorem Recounts.mark {t : Trail} {history : List Mark} (known : t.Recounts history)
    (m : Mark) : (t.mark m).Recounts (history ++ [m]) := by
  cases m with
  | moved p => exact known.moved p
  | restarted => exact known.restarted

theorem Recounts.foldl {t : Trail} {history : List Mark} (known : t.Recounts history)
    (more : List Mark) : (more.foldl Trail.mark t).Recounts (history ++ more) := by
  induction more generalizing t history with
  | nil => simpa using known
  | cons m more ih => simpa using ih (known.mark m)

end Trail

namespace Scene

/-- What an input does to the trail. A report without a reference does nothing to it. -/
def Input.marks : Input → List Trail.Mark
  | .position p => [.moved p]
  | .originReset => [.restarted]
  | .event (.report r) => if r.hasReference then [.moved r.offset] else []
  | .event .referenceReset => [.restarted]
  | .event (.connection _) => []
  | .scale _ | .size _ | .container _ | .fix _ | .connection _ => []

def history (inputs : List Input) : List Trail.Mark :=
  inputs.flatMap Input.marks

theorem trail_fit (s : Scene) (m : Measurement) : (s.fit m).1.trail = s.trail := by
  unfold fit
  split <;> rfl

theorem trail_fitContainer (s : Scene) (measured? : Option Measurement) :
    (s.fitContainer measured?).1.trail = s.trail := by
  cases measured? with
  | none => rfl
  | some m => exact s.trail_fit m

theorem trail_hearAll_report (s : Scene) (r : Report) :
    (s.hearAll (Event.report r).notices).1.trail =
      ((Input.event (.report r)).marks).foldl Trail.mark s.trail := by
  cases referenced : r.hasReference <;>
    simp [Event.notices, hearAll, hear, Input.marks, referenced, Trail.mark, moveTo]

theorem trail_apply (s : Scene) (input : Input) :
    (s.apply input).1.trail = input.marks.foldl Trail.mark s.trail := by
  cases input with
  | size m => exact s.trail_fit m
  | container measured? => exact s.trail_fitContainer measured?
  | event e =>
      cases e with
      | report r => exact s.trail_hearAll_report r
      | referenceReset => rfl
      | connection connected => rfl
  | position p => rfl
  | originReset => rfl
  | scale value => rfl
  | fix fix => rfl
  | connection connected => rfl

theorem trail_applyAll (s : Scene) (inputs : List Input) :
    (s.applyAll inputs).trail = (history inputs).foldl Trail.mark s.trail := by
  induction inputs generalizing s with
  | nil => rfl
  | cons input inputs ih =>
      calc ((s.apply input).1.applyAll inputs).trail
          = (history inputs).foldl Trail.mark (s.apply input).1.trail := ih _
        _ = (history inputs).foldl Trail.mark (input.marks.foldl Trail.mark s.trail) := by
            rw [trail_apply]
        _ = (history (input :: inputs)).foldl Trail.mark s.trail := by
            simp [history, List.foldl_append]

theorem recounts_applyAll (settings : Settings) (inputs : List Input) :
    ((ofSettings settings).applyAll inputs).trail.Recounts (history inputs) := by
  rw [trail_applyAll]
  exact Trail.recounts_start.foldl (history inputs)

theorem anchored_foldl (marks : List Trail.Mark) {t : Trail} (set : t.anchored = true) :
    (marks.foldl Trail.mark t).anchored = true := by
  induction marks generalizing t with
  | nil => exact set
  | cons m marks ih =>
      cases m with
      | moved p => exact ih (t.anchored_moveTo p)
      | restarted => exact ih rfl

/-- The history alone decides what the trail of a scene is: the position is the last one reported,
and the trail holds the positions since the last reset behind the one held then. The origin counts
as established exactly when the trail holds a point, whose last one is the position, and it stays
established. -/
theorem trail_of_history (settings : Settings) (inputs : List Input) :
    let t := ((ofSettings settings).applyAll inputs).trail
    t.position = Trail.lastVisited (history inputs) ∧
      (history inputs = [] → t.anchored = false ∧ t.points = #[]) ∧
      (history inputs ≠ [] → t.anchored = true) ∧
      (.restarted ∉ history inputs → t.points.toList = Trail.visited (history inputs)) ∧
      (∀ before after, history inputs = before ++ .restarted :: after → .restarted ∉ after →
        t.points.toList = Trail.lastVisited before :: Trail.visited after) ∧
      (t.anchored = true ↔ t.points ≠ #[]) ∧
      (t.anchored = true → t.points.back? = some t.position) ∧
      ∀ more, t.anchored = true →
        ((ofSettings settings).applyAll (inputs ++ more)).trail.anchored = true := by
  intro t
  have known : t.Recounts (history inputs) := recounts_applyAll settings inputs
  have unset_of_nil (none : history inputs = []) : t.anchored = false := by
    simpa [none] using known.anchored
  refine ⟨known.position, fun none => ⟨unset_of_nil none, known.unset (unset_of_nil none)⟩,
    known.anchored.mpr, known.fresh, known.since, ⟨?_, ?_⟩, known.last, ?_⟩
  · intro set empty
    simpa [empty] using known.last set
  · intro nonempty
    cases set : t.anchored with
    | true => rfl
    | false => exact absurd (known.unset set) nonempty
  · intro more set
    have later : (ofSettings settings).applyAll (inputs ++ more) =
        ((ofSettings settings).applyAll inputs).applyAll more := List.foldl_append
    rw [later, trail_applyAll]
    exact anchored_foldl _ set

/-- A reset before the first report puts the origin into the trail. -/
example (settings : Settings) (p : Point) :
    ((ofSettings settings).applyAll [.originReset, .position p]).trail.points = #[.origin, p] :=
  rfl

end Scene

end PositionMap
