import PositionMap.Feed
import PositionMap.Settings
import PositionMap.Trail

/-!
# The scene

Everything a picture is drawn from, and what changes it. Each change returns the new scene and the
log entries that it makes; `Scene.apply` is all of them by one type of inputs.
-/

namespace PositionMap

/-! ## Labels -/

namespace Label

/-- A grid spacing, in centimeters below one meter. -/
def grid (spacing : Float) : String :=
  if spacing < 1 then Number.fixed 0 (spacing * 100) ++ "cm" else Number.shown spacing ++ "m"

def scale (scale : Float) : String :=
  "Scale: ±" ++ Number.fixed 1 scale ++ "m  |  Grid: " ++ grid (View.spacingOf scale)

def meters (value : Float) : String :=
  Number.fixed 2 value ++ " m"

end Label

/-! ## Inputs -/

/-- The measured size of the canvas, in pixels of the page, and the device pixels in one of them. -/
structure Measurement where
  width : Float
  height : Float
  ratio : Float

structure Scene where
  trail : Trail
  view : View
  connected : Bool
  /-- The fix of the last report. -/
  fix? : Option Fix
  /-- Device pixels in a pixel of the page. -/
  ratio : Float

namespace Scene

def ofSettings (settings : Settings) : Scene where
  trail := .start
  view := .unsized settings.initialScale settings.viewFill
  connected := false
  fix? := none
  ratio := 1

inductive Input
  | position (p : Point)
  | originReset
  | scale (value : Float)
  | size (measured : Measurement)
  | container (measured? : Option Measurement)
  | fix (fix : Fix)
  | connection (connected : Bool)
  | event (event : Event)

def moveTo (s : Scene) (p : Point) : Scene × List Entry :=
  let (trail, entries) := s.trail.moveTo p
  ({ s with trail }, entries)

def resetOrigin (s : Scene) : Scene × List Entry :=
  let (trail, entries) := s.trail.reset
  ({ s with trail }, entries)

/-- Changes the scale, which may be any number. -/
def setScale (s : Scene) (scale : Float) : Scene :=
  { s with view.scale := scale }

def setConnected (s : Scene) (connected : Bool) : Scene × List Entry :=
  ({ s with connected },
    [⟨.info, "connection " ++ if connected then "Connected" else "Disconnected"⟩])

def differs (s : Scene) (m : Measurement) : Bool :=
  !(s.view.width == m.width && s.view.height == m.height && s.ratio == m.ratio)

def fit (s : Scene) (m : Measurement) : Scene × List Entry :=
  if s.differs m then
    ({ s with view.width := m.width, view.height := m.height, ratio := m.ratio },
      [⟨.debug, "viewport " ++ Number.shown m.width ++ "x" ++ Number.shown m.height ++ " @ " ++
        Number.shown m.ratio ++ "x"⟩])
  else (s, [])

/-- Takes the size of the container, and keeps its own if there is nothing to measure. -/
def fitContainer (s : Scene) : Option Measurement → Scene × List Entry
  | some m => s.fit m
  | none => (s, [])

def hear (s : Scene) : Notice → Scene × List Entry
  | .fix fix => ({ s with fix? := some fix }, [])
  | .position p => s.moveTo p
  | .originReset => s.resetOrigin
  | .connection connected => s.setConnected connected

def hearAll (s : Scene) : List Notice → Scene × List Entry
  | [] => (s, [])
  | notice :: notices =>
    let (s, entries) := s.hear notice
    let (s, more) := s.hearAll notices
    (s, entries ++ more)

def apply (s : Scene) : Input → Scene × List Entry
  | .position p => s.moveTo p
  | .originReset => s.resetOrigin
  | .scale value => (s.setScale value, [])
  | .size measured => s.fit measured
  | .container measured? => s.fitContainer measured?
  | .fix fix => s.hear (.fix fix)
  | .connection connected => s.setConnected connected
  | .event event => s.hearAll event.notices

def applyAll (s : Scene) (inputs : List Input) : Scene :=
  inputs.foldl (fun s input => (s.apply input).1) s

/-- The point at which the marker of the current position is drawn, unless it is off the canvas.
Before the first report the marker stands at the origin. -/
def marker? (s : Scene) : Option Point :=
  let point := s.view.project s.trail.position
  if s.view.contains point then some point else none

/-! ## What the page shows -/

def scaleLabel (s : Scene) : String :=
  Label.scale s.view.scale

def positionLabels (s : Scene) : List String :=
  [Label.meters s.trail.position.x, Label.meters s.trail.position.y,
    Label.meters s.trail.distance]

def trailLength (s : Scene) : Nat :=
  s.trail.points.size

def fixStatus (s : Scene) : Option String :=
  s.fix?.map Fix.status

def satellites (s : Scene) : UInt32 :=
  match s.fix? with
  | some fix => fix.satellites
  | none => 0

end Scene

end PositionMap
