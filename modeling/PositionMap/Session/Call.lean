import PositionMap.Session.Loop

/-!
# Calls of the map

Calls that change the map are dropped whole while its renderer is lent out, and calls that read it
answer a default.
-/

namespace PositionMap.Session

def busyCall (react : Reaction) : Session → Session :=
  warn react "engine busy; call dropped"

def input (react : Reaction) (input : Scene.Input) (s : Session) : Session :=
  s.lend (busyCall react) fun r s =>
    let (scene, entries) := r.scene.apply input
    ({ r with scene }, s.logAll react entries)

/-- Hands an event of the feed to the scene. Its refusal is logged and answered, busy or not. -/
def event (react : Reaction) (name payload : String) (s : Session) : Reply × Session :=
  match Event.decode name payload with
  | .error refusal =>
    (.refused refusal.message, s.warn react ("dropped " ++ name ++ ": " ++ refusal.message))
  | .ok event => (.done, s.input react (.event event))

def refit (react : Reaction) (r : Renderer) (s : Session) : Renderer × Session :=
  match s.fitCanvas react r with
  | (true, r, s) => (r, s)
  | (false, r, s) => (r, s.warn react "resize skipped: canvas container missing")

def resize (react : Reaction) (s : Session) : Session :=
  s.lend (busyCall react) (refit react)

/-- Draws a frame at once, whatever the pacer says. -/
def renderOnce (react : Reaction) (s : Session) : Session :=
  s.lend (busyCall react) (frame react)

/-- Reads the scene; a busy map answers the default. -/
def read {α : Type} (s : Session) (default : α) (f : Scene → α) : α :=
  match s.renderer? with
  | some r => f r.scene
  | none => default

def isRunning (s : Session) : Bool :=
  match s.widget? with
  | some widget => widget.running
  | none => false

def hasMap (s : Session) : Bool :=
  match s.widget? with
  | some widget => !widget.leaving
  | none => false

def callMap (react : Reaction) (call : Call) (s : Session) : Reply × Session :=
  match call with
  | .tick time =>
    let (granted, s) := s.tick react time
    (.count granted, s)
  | .position p => (.done, s.input react (.position p))
  | .originReset => (.done, s.input react .originReset)
  | .scale value => (.done, s.input react (.scale value))
  | .connection connected => (.done, s.input react (.connection connected))
  | .event name payload => s.event react name payload
  | .start => (.done, s.start react)
  | .stop => (.done, s.stop react)
  | .isRunning => (.flag s.isRunning, s)
  | .resize => (.done, s.resize react)
  | .renderOnce => (.done, s.renderOnce react)
  | .scaleLabel => (.text (s.read "" Scene.scaleLabel), s)
  | .positionLabels => (.texts (s.read [] Scene.positionLabels), s)
  | .trailLength => (.count (s.read 0 Scene.trailLength), s)
  | .isConnected => (.flag (s.read false Scene.connected), s)
  | .fixStatus => (.maybeText (s.read none Scene.fixStatus), s)
  | .satellites => (.count (s.read 0 fun scene => scene.satellites.toNat), s)

/-- A call as the page makes it. Time passes with or without a map. -/
def call (react : Reaction) (c : Call) (s : Session) : Reply × Session :=
  match c with
  | .tick _ => s.callMap react c
  | _ => if s.hasMap then s.callMap react c else (.noMap, s)

def callEach (react : Reaction) (calls : List Call) (s : Session) : Session :=
  calls.foldl
    (fun s c =>
      let (reply, s) := s.call react c
      { s with hookReplies := s.hookReplies.push reply })
    s

/-- The calls of a hook, to which the page does not react again. -/
def callBack (calls : List Call) (s : Session) : Session :=
  s.callEach quiet calls

/-- The reaction of a page with a hook: on its signal the hook is taken off and its calls are
made. -/
def hooked : Reaction := fun signal s =>
  match s.hook? with
  | none => s
  | some hook =>
    if hook.signal = signal then { s with hook? := none }.callBack hook.calls else s

end PositionMap.Session
