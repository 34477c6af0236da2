import PositionMap.Canvas
import PositionMap.Scene

/-!
# The picture

The commands that draw a scene, layer by layer: the background, the grid and the axes, the trail,
and the marker of the current position. Nothing but the scene goes into them.
-/

namespace PositionMap

open Canvas (Command)

/-! ## Colours and sizes

Sizes are in pixels of the page, not of the device.
-/

namespace Style

def background : String := "#ffffff"

def gridStroke : String := "#e0e0e0"

def axisStroke : String := "#000000"

def trailStroke : String := "#22c55e"

def trailDotFill : String := "rgba(34, 197, 94, 0.4)"

def markerFill : String := "#ef4444"

def markerOutline : String := "#ffffff"

def markerShadow : String := "rgba(0, 0, 0, 0.3)"

def axisLabelFont : String := "bold 14px sans-serif"

def gridLineWidth : Float := 1

def axisLineWidth : Float := 2

def trailLineWidth : Float := 2

def originDotRadius : Float := 3

def trailDotRadius : Float := 2

def markerRadius : Float := 8

def markerCenterRadius : Float := 3

def markerShadowBlur : Float := 4

def markerShadowOffsetY : Float := 2

end Style

/-! ## Layers -/

namespace Picture

def fullTurn : Float := 2 * 3.14159265358979323846

def verticalLine (v : View) (x : Float) : List Command :=
  [.beginPath, .moveTo ⟨x, 0⟩, .lineTo ⟨x, v.height⟩, .stroke]

def horizontalLine (v : View) (y : Float) : List Command :=
  [.beginPath, .moveTo ⟨0, y⟩, .lineTo ⟨v.width, y⟩, .stroke]

def disc (center : Point) (radius : Float) : List Command :=
  [.beginPath, .arc center radius 0 fullTurn, .fill]

def background (s : Scene) : List Command :=
  [.setTransform s.ratio 0 0 s.ratio 0 0, .fillStyle Style.background,
    .fillRect ⟨0, 0⟩ s.view.width s.view.height]

/-! ## Grid and axes -/

/-- The grid lines at a distance from the axes, on both sides of them unless the distance is 0. -/
def gridLines (v : View) (meters : Float) : List Command :=
  let offset := v.pixels meters
  verticalLine v (v.center.x + offset) ++ horizontalLine v (v.center.y - offset) ++
    if 0 < meters then
      verticalLine v (v.center.x - offset) ++ horizontalLine v (v.center.y + offset)
    else []

def grid (v : View) : List Command :=
  [.strokeStyle Style.gridStroke, .lineWidth Style.gridLineWidth] ++
    v.gridOffsets.flatMap (gridLines v)

def axes (v : View) : List Command :=
  [.strokeStyle Style.axisStroke, .lineWidth Style.axisLineWidth] ++
    horizontalLine v v.center.y ++ verticalLine v v.center.x ++
    [.fillStyle Style.axisStroke, .font Style.axisLabelFont,
      .textAlign "center",
      .fillText "N" ⟨v.center.x - 10, 20⟩,
      .fillText "S" ⟨v.center.x - 10, v.height - 10⟩,
      .textAlign "left",
      .fillText "E" ⟨v.width - 20, v.center.y - 8⟩,
      .textAlign "right",
      .fillText "W" ⟨20, v.center.y - 8⟩] ++
    disc v.center Style.originDotRadius

/-! ## Trail and marker -/

def polyline (v : View) (first : Point) (rest : List Point) : List Command :=
  [.beginPath, .moveTo (v.project first)] ++ rest.map (fun p => .lineTo (v.project p)) ++ [.stroke]

/-- A dot at every candidate that is on the canvas. -/
def dots (v : View) (points : List Point) : List Command :=
  ((Trail.dotCandidates points).map v.project |>.filter v.contains).flatMap
    fun p => disc p Style.trailDotRadius

/-- The trail: a line through all of its points, clipped to the canvas, and dots along it. -/
def trail (v : View) : List Point → List Command
  | [] => []
  | first :: rest =>
    [.save, .beginPath, .rect ⟨0, 0⟩ v.width v.height, .clip,
      .strokeStyle Style.trailStroke, .lineWidth Style.trailLineWidth,
      .lineCap "round", .lineJoin "round"] ++
    polyline v first rest ++
    [.restore, .fillStyle Style.trailDotFill] ++
    dots v (first :: rest)

def marker (center : Point) : List Command :=
  [.save, .shadowColor Style.markerShadow, .shadowBlur Style.markerShadowBlur,
    .shadowOffsetX 0, .shadowOffsetY Style.markerShadowOffsetY,
    .fillStyle Style.markerFill] ++
  disc center Style.markerRadius ++
  [.strokeStyle Style.markerOutline, .lineWidth Style.axisLineWidth, .stroke, .restore,
    .fillStyle Style.markerOutline] ++
  disc center Style.markerCenterRadius

end Picture

def Scene.picture (s : Scene) : List Command :=
  Picture.background s ++ Picture.grid s.view ++ Picture.axes s.view ++
    Picture.trail s.view s.trail.points.toList ++
    match s.marker? with
    | some center => Picture.marker center
    | none => []

end PositionMap
