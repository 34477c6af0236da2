import PositionMap.Number.Text
import PositionMap.View

/-!
# The trail

The current position and the positions since the origin was established or last reset. They are
kept in meters, so that a change of scale or size leaves them alone. When the origin changes, a log
entry says so.
-/

namespace PositionMap

/-! ## Log entries -/

inductive Level
  | debug
  | info
  | warn
  deriving DecidableEq, Repr

namespace Level

def name : Level → String
  | debug => "debug"
  | info => "info"
  | warn => "warn"

end Level

structure Entry where
  level : Level
  text : String
  deriving DecidableEq, Repr

namespace Entry

def line (entry : Entry) : String :=
  "log " ++ entry.level.name ++ ": " ++ entry.text

end Entry

/-! ## Positions -/

structure Trail where
  position : Point
  points : Array Point
  /-- Whether the origin has been established. -/
  anchored : Bool

namespace Trail

def start : Trail := ⟨.origin, #[], false⟩

def placeText (p : Point) : String :=
  "(" ++ Number.fixed 2 p.x ++ ", " ++ Number.fixed 2 p.y ++ ")"

/-- Takes a new position. The first one establishes the origin and starts the trail. -/
def moveTo (t : Trail) (p : Point) : Trail × List Entry :=
  if t.anchored then (⟨p, t.points.push p, true⟩, [])
  else (⟨p, #[p], true⟩, [⟨.info, "origin established at " ++ placeText p⟩])

/-- Starts the trail anew at the current position, which counts as established from now on. -/
def reset (t : Trail) : Trail × List Entry :=
  (⟨t.position, #[t.position], true⟩, [⟨.info, "trail reset at " ++ placeText t.position⟩])

def distance (t : Trail) : Float :=
  Number.hypotenuse t.position.x t.position.y

/-! ## Dots along a trail -/

/-- About this many dots are drawn along a trail. -/
def dotTarget : Nat := 20

def stride (length : Nat) : Nat :=
  max (length / dotTarget) 1

/-- Leaves out as many elements as `wait` says, takes one, and from there on every `step`-th. -/
def every {α : Type} (step : Nat) : Nat → List α → List α
  | _, [] => []
  | 0, x :: rest => x :: every step (step - 1) rest
  | wait + 1, _ :: rest => every step wait rest

/-- The points that may get a dot: the first one and then one in each stride. -/
def dotCandidates (points : List Point) : List Point :=
  every (stride points.length) 0 points

theorem stride_pos (length : Nat) : 0 < stride length :=
  Nat.le_max_right _ _

theorem anchored_moveTo (t : Trail) (p : Point) : (t.moveTo p).1.anchored := by
  unfold moveTo
  split <;> rfl

theorem position_moveTo (t : Trail) (p : Point) : (t.moveTo p).1.position = p := by
  unfold moveTo
  split <;> rfl

theorem points_moveTo (t : Trail) (p : Point) :
    (t.moveTo p).1.points.toList = (if t.anchored then t.points.toList else []) ++ [p] := by
  unfold moveTo
  split <;> simp

end Trail

end PositionMap
