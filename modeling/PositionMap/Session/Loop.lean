import PositionMap.Session.Frame

/-!
# The frame loop

While a map runs it has one frame request waiting at the page. Each frame that is granted makes the
next request; the pacer decides whether the frame is drawn. How it is drawn makes no difference for
the loop, which is therefore given for any way to do so.
-/

namespace PositionMap.Session

def schedule (react : Reaction) (s : Session) : Session :=
  match s.widget? with
  | none => s
  | some widget =>
    if !s.page.window then s.warn react "no window; animation loop idle"
    else
      match s.page.requestError? with
      | some message =>
        s.warn react ("requestAnimationFrame failed: " ++ errorText message)
      | none =>
        let id := s.page.nextId
        let s := { s with page := s.page.request widget.owner }
        let s := s.emit react (.requested id)
        s.onWidget fun w => { w with handle? := some id }

/-- Starts the loop, unless it is running. The first frame after a start is always drawn. -/
def start (react : Reaction) (s : Session) : Session :=
  match s.widget? with
  | none => s
  | some widget =>
    if widget.running then s
    else
      let s := s.info react "animation started"
      let s := s.onWidget fun w => { w with pacer := w.pacer.reset }
      s.schedule react

def cancelRequest (react : Reaction) (id : Nat) (s : Session) : Session :=
  let s := s.emit react (.cancelled id)
  match s.page.cancelError? with
  | some message => s.warn react ("cancelAnimationFrame failed: " ++ errorText message)
  | none => { s with page := s.page.cancel id }

def stop (react : Reaction) (s : Session) : Session :=
  match s.widget?.bind Widget.handle? with
  | none => s
  | some id =>
    let s := s.onWidget fun w => { w with handle? := none }
    let s := if s.page.window then s.cancelRequest react id else s
    s.info react "animation stopped"

/-- A frame of the loop. It is skipped while the renderer is lent out. -/
def loopFrameBy (draw : Renderer → Session → Renderer × Session) (react : Reaction) (s : Session) :
    Session :=
  s.lend (warn react "engine busy; frame skipped") draw

/-- A frame that the page grants. The map that asked for it may be gone. -/
def grantBy (draw : Renderer → Session → Renderer × Session) (react : Reaction) (time : Float)
    (s : Session) (request : Request) : Session :=
  match s.widget? with
  | none => s
  | some widget =>
    if widget.owner = request.owner then
      let s := s.onWidget fun w => { w with handle? := none, pacer := w.pacer.offer time }
      let s := if widget.pacer.admits time then s.loopFrameBy draw react else s
      s.schedule react
    else s

/-- Grants all the frames that were waiting; those requested meanwhile wait for the next time. The
number of frames granted is returned. -/
def tickBy (draw : Renderer → Session → Renderer × Session) (react : Reaction) (time : Float)
    (s : Session) : Nat × Session :=
  let granted := s.page.queue
  let s := { s with page := { s.page with queue := [] } }
  (granted.length, granted.foldl (grantBy draw react time) s)

def loopFrame (react : Reaction) (s : Session) : Session :=
  s.loopFrameBy (frame react) react

def grant (react : Reaction) (time : Float) (s : Session) (request : Request) : Session :=
  s.grantBy (frame react) react time request

def tick (react : Reaction) (time : Float) (s : Session) : Nat × Session :=
  s.tickBy (frame react) react time

end PositionMap.Session
