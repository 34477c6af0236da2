import PositionMap.Session.Basic

/-!
# Frames

A frame first fits the canvas to its container and then draws the scene. Without a container or a
window nothing is drawn and the size is kept; a picture that fails is abandoned where it failed.
-/

namespace PositionMap.Session

/-- The size of the container of a canvas. The page gets to know that it is asked for. -/
def measure (react : Reaction) (canvas : String) (s : Session) : Option Measurement × Session :=
  match s.page.container? canvas with
  | none => (none, s)
  | some size => (some (s.page.measurement size), react "getBoundingClientRect" s)

def backingSize (length ratio : Float) : UInt32 :=
  Number.nearestCount (length * ratio)

/-- Fits the canvas to its container; false if there is nothing to fit it to. The canvas itself is
resized, and so cleared, only when the size has changed. -/
def fitCanvas (react : Reaction) (r : Renderer) (s : Session) : Bool × Renderer × Session :=
  match s.measure react r.canvas with
  | (none, s) => (false, r, s)
  | (some m, s) =>
    let (scene, entries) := r.scene.fit m
    let s := s.logAll react entries
    let s :=
      if r.scene.differs m then
        (s.emit react (.canvasWidth (backingSize m.width m.ratio))).emit react
          (.canvasHeight (backingSize m.height m.ratio))
      else s
    (true, { r with scene }, s)

def paint (react : Reaction) (scene : Scene) (s : Session) : Session :=
  let performance := Canvas.play s.breakage? scene.picture
  let s := { s with breakage? := performance.pending? }
  let s := s.emitAll react (performance.performed.map .draw)
  match performance.error? with
  | some message => s.warn react ("frame skipped: " ++ errorText message)
  | none => s

def frame (react : Reaction) (r : Renderer) (s : Session) : Renderer × Session :=
  match s.fitCanvas react r with
  | (true, r, s) => (r, if r.draws then s.paint react r.scene else s)
  | (false, r, s) => (r, s.debug react "canvas container missing; frame skipped")

end PositionMap.Session
