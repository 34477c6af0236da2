import PositionMap.Session.Call

/-!
# Steps of a session

What happens to a session from outside: the page changes, the module is loaded, a map is made or
given up, or the page calls it. Each step may come with a canvas call that fails and with a hook.
-/

namespace PositionMap

inductive Action
  | change (c : Page.Change)
  | load
  | create (canvas settings : String)
  | release
  | call (c : Call)

structure Step where
  action : Action
  breakage? : Option Canvas.Breakage
  hook? : Option Hook

namespace Session

/-- Loads the module: from the first time on, log entries are shown. -/
def load (react : Reaction) (s : Session) : Session :=
  if s.logging then s
  else { s with logging := true }.info react "gpsmap 0.1.0 loaded"

/-- Gives the map up. It stops before it is gone. -/
def release (react : Reaction) (s : Session) : Session :=
  let s := s.onWidget fun w => { w with leaving := true }
  { s.stop react with widget? := none }

def mount (react : Reaction) (canvas : String) (settings : Settings) (s : Session) : Session :=
  let r : Renderer := ⟨canvas, s.page.draws canvas, .ofSettings settings⟩
  let s := if r.draws then s else s.warn react "canvas has no 2d context; frames will be skipped"
  let (fitted, r, s) := s.fitCanvas react r
  let s :=
    if fitted then s
    else s.warn react ("#" ++ canvas ++ " has no container; frames skipped until it is attached")
  let s := s.info react
    ("renderer bound to #" ++ canvas ++ " (scale " ++ Number.shown settings.initialScale ++ " m)")
  let widget : Widget := ⟨s.nextOwner, some r, none, .ofRate settings.maxRate, false⟩
  { s with widget? := some widget, nextOwner := s.nextOwner + 1 }

def create (react : Reaction) (canvas settings : String) (s : Session) : Reply × Session :=
  match Settings.parse settings with
  | .error refusal => (.refused refusal.message, s)
  | .ok settings =>
    match s.page.canvasProblem? canvas with
    | some problem => (.refused problem, s)
    | none => (.done, s.mount react canvas settings)

def act (react : Reaction) (action : Action) (s : Session) : Reply × Session :=
  match action with
  | .change c => (.done, { s with page := s.page.change c })
  | .load => (.done, s.load react)
  | .create canvas settings => (s.release react).create react canvas settings
  | .release => (.done, s.release react)
  | .call c => s.call react c

def armed (s : Session) (st : Step) : Session :=
  { s with breakage? := st.breakage?, hook? := st.hook?, hookReplies := #[], journal := #[] }

/-- One step, with a journal of its own. -/
def step (s : Session) (st : Step) : Reply × Session :=
  (s.armed st).act hooked st.action

def run (s : Session) (steps : List Step) : Session :=
  steps.foldl (fun s st => (s.step st).2) s

end Session

end PositionMap
