import PositionMap.Pacer
import PositionMap.Page
import PositionMap.Picture

/-!
# Sessions

A session is a page with at most one map on it. The map's renderer is *lent* to the call that works
with it: while a call holds the renderer, the map has none, and every other call finds it busy.

What a map does to the page are *effects*, one entry after the other in the journal of a session. The
page may act on its own whenever it gets to know of something the map does. A `Reaction` is that
action; everything a session does takes one.
-/

namespace PositionMap

/-! ## Effects -/

inductive Effect
  | draw (command : Canvas.Command)
  | canvasWidth (pixels : UInt32)
  | canvasHeight (pixels : UInt32)
  | requested (id : Nat)
  | cancelled (id : Nat)
  | log (entry : Entry)

namespace Effect

def name : Effect → String
  | draw command => command.name
  | canvasWidth _ => "canvas.width"
  | canvasHeight _ => "canvas.height"
  | requested _ => "requestAnimationFrame"
  | cancelled _ => "cancelAnimationFrame"
  | log _ => "log"

def line : Effect → String
  | draw command => command.line
  | canvasWidth pixels => "canvas.width = " ++ toString pixels.toNat
  | canvasHeight pixels => "canvas.height = " ++ toString pixels.toNat
  | requested id => "requestAnimationFrame -> " ++ toString id
  | cancelled id => "cancelAnimationFrame " ++ toString id
  | log entry => entry.line

end Effect

/-! ## Maps and their pages -/

/-- A canvas, whether it can be drawn on, and the scene to be drawn on it. -/
structure Renderer where
  canvas : String
  draws : Bool
  scene : Scene

structure Widget where
  /-- The number under which the map makes its frame requests. -/
  owner : Nat
  /-- None while a call holds it. -/
  renderer? : Option Renderer
  /-- The frame request that the map waits for. The map runs while it has one. -/
  handle? : Option Nat
  pacer : Pacer
  /-- The page has given the map up, which is going to stop. -/
  leaving : Bool

namespace Widget

def running (widget : Widget) : Bool :=
  widget.handle?.isSome

end Widget

inductive Reply
  | done
  | refused (message : String)
  | noMap
  | flag (value : Bool)
  | text (value : String)
  | texts (values : List String)
  | maybeText (value : Option String)
  | count (value : Nat)
  deriving DecidableEq

inductive Call
  | tick (time : Float)
  | position (p : Point)
  | originReset
  | scale (value : Float)
  | connection (connected : Bool)
  | event (name payload : String)
  | start
  | stop
  | isRunning
  | resize
  | renderOnce
  | scaleLabel
  | positionLabels
  | trailLength
  | isConnected
  | fixStatus
  | satellites

/-- Calls that the page makes as soon as something happens, once. -/
structure Hook where
  signal : String
  calls : List Call

structure Session where
  page : Page
  /-- Whether log entries are shown. -/
  logging : Bool
  widget? : Option Widget
  nextOwner : Nat
  breakage? : Option Canvas.Breakage
  hook? : Option Hook
  hookReplies : Array Reply
  journal : Array Effect

/-- What the page does when it gets a signal: the name of an effect, or of a question. -/
abbrev Reaction := String → Session → Session

namespace Session

def blank (page : Page) : Session :=
  ⟨page, false, none, 0, none, none, #[], #[]⟩

def quiet : Reaction := fun _ s => s

def onWidget (s : Session) (f : Widget → Widget) : Session :=
  { s with widget? := s.widget?.map f }

def record (s : Session) (effect : Effect) : Session :=
  { s with journal := s.journal.push effect }

@[simp] theorem page_onWidget (s : Session) (f : Widget → Widget) :
    (s.onWidget f).page = s.page := rfl

@[simp] theorem widget?_onWidget (s : Session) (f : Widget → Widget) :
    (s.onWidget f).widget? = s.widget?.map f := rfl

@[simp] theorem page_record (s : Session) (effect : Effect) : (s.record effect).page = s.page := rfl

@[simp] theorem widget?_record (s : Session) (effect : Effect) :
    (s.record effect).widget? = s.widget? := rfl

@[simp] theorem hook?_record (s : Session) (effect : Effect) :
    (s.record effect).hook? = s.hook? := rfl

/-- Records an effect, to which the page reacts at once. -/
def emit (react : Reaction) (effect : Effect) (s : Session) : Session :=
  react effect.name (s.record effect)

def emitAll (react : Reaction) (effects : List Effect) (s : Session) : Session :=
  effects.foldl (fun s effect => s.emit react effect) s

/-- Shows a log entry. Debug entries are never shown. -/
def log (react : Reaction) (s : Session) (entry : Entry) : Session :=
  if s.logging && entry.level ≠ .debug then s.emit react (.log entry) else s

def logAll (react : Reaction) (s : Session) (entries : List Entry) : Session :=
  entries.foldl (log react) s

def info (react : Reaction) (text : String) (s : Session) : Session :=
  s.log react ⟨.info, text⟩

def warn (react : Reaction) (text : String) (s : Session) : Session :=
  s.log react ⟨.warn, text⟩

def debug (react : Reaction) (text : String) (s : Session) : Session :=
  s.log react ⟨.debug, text⟩

def errorText (message : String) : String :=
  "JsValue(" ++ Text.quoted message ++ ")"

/-! ## Lending the renderer -/

def renderer? (s : Session) : Option Renderer :=
  s.widget?.bind Widget.renderer?

/-- Lends the renderer to `use` for as long as it works with it; without a renderer to lend, `busy`
happens instead. -/
def lend (s : Session) (busy : Session → Session)
    (use : Renderer → Session → Renderer × Session) : Session :=
  match s.renderer? with
  | none => busy s
  | some renderer =>
    let (renderer, s) := use renderer (s.onWidget fun w => { w with renderer? := none })
    s.onWidget fun w => { w with renderer? := some renderer }

end Session

end PositionMap
