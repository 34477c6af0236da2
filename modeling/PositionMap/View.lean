import PositionMap.Number.Exact

/-!
# The view

Positions are in meters east and north of the origin; points of the canvas are in pixels, with `y`
pointing down. A `View` shows the origin in the middle of the canvas and north up, and maps `scale`
meters onto the share `fill` of half the shorter side.
-/

namespace PositionMap

/-- A position in meters, or a point of the canvas in pixels. -/
structure Point where
  x : Float
  y : Float

namespace Point

def origin : Point := ⟨0, 0⟩

end Point

structure View where
  width : Float
  height : Float
  /-- Meters from the middle to the edge of the filled square. -/
  scale : Float
  /-- The share of half the shorter side that the scale is mapped onto. -/
  fill : Float

namespace View

def defaultScale : Float := 20

def defaultFill : Float := 0.9

def unsized (scale fill : Float) : View := ⟨0, 0, scale, fill⟩

def halfExtent (v : View) : Float :=
  Number.lesser v.width v.height / 2 * v.fill

def pixels (v : View) (meters : Float) : Float :=
  meters / v.scale * v.halfExtent

/-- The middle of the canvas, where the origin is shown. -/
def center (v : View) : Point :=
  ⟨v.width / 2, v.height / 2⟩

def project (v : View) (p : Point) : Point :=
  ⟨v.center.x + v.pixels p.x, v.center.y - v.pixels p.y⟩

/-- Whether a point lies on the canvas, edges included. -/
def contains (v : View) (p : Point) : Bool :=
  0 ≤ p.x && p.x ≤ v.width && 0 ≤ p.y && p.y ≤ v.height

theorem contains_iff {v : View} {p : Point} :
    v.contains p = true ↔ (0 ≤ p.x ∧ p.x ≤ v.width) ∧ 0 ≤ p.y ∧ p.y ≤ v.height := by
  simp only [contains, Bool.and_eq_true, decide_eq_true_eq, and_assoc]

/-! ## The grid -/

/-- Scales up to the first number of a pair have the grid spacing of the second. -/
def gridSteps : List (Float × Float) :=
  [(1, 0.25), (2, 0.5), (5, 1)]

def coarseSpacing : Float := 5

def spacingOf (scale : Float) : Float :=
  match gridSteps.find? fun step => scale ≤ step.1 with
  | some step => step.2
  | none => coarseSpacing

def gridSpacing (v : View) : Float :=
  spacingOf v.scale

def maxGridLines : Nat := 1000

/-- The distances from the axes, in meters, at which grid lines are drawn: the multiples of the
spacing up to the scale. A scale that is no length has none. -/
def gridOffsets (v : View) : List Float :=
  if v.scale.isFinite && 0 ≤ v.scale then
    ((List.range maxGridLines).map fun i => .ofNat i * v.gridSpacing).takeWhile
      fun offset => !(v.scale < offset)
  else []

end View

end PositionMap
