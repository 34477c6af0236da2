import Mathlib.Data.List.Forall2
import PositionMap.Proofs.Session.Comparison
import PositionMap.Proofs.Session.Contextless

/-! # Drawing leaves no trace in a session

Whether a canvas gives out a drawing context, and which of its calls fail, decides what is drawn and
what is warned of; nothing else in a session depends on it. Two sessions that differ in this alone
answer the same in every step, and their effects are the same but for the drawing.
-/

namespace PositionMap

/-- Whether the effect is drawing, or the warning that there is no context or that a frame was
skipped. -/
def Effect.ofDrawing : Effect → Bool
  | draw _ => true
  | log entry =>
    entry.level == .warn &&
      (entry.text == "canvas has no 2d context; frames will be skipped" ||
        "frame skipped: ".toList.isPrefixOf entry.text.toList)
  | canvasWidth _ | canvasHeight _ | requested _ | cancelled _ => false

/-! ## Without the drawing contexts -/

def Element.blinded (e : Element) : Element :=
  { e with context := .missing }

def Page.blinded (page : Page) : Page :=
  { page with elements := page.elements.map fun entry => (entry.1, entry.2.blinded) }

def Page.Change.blinded (c : Page.Change) : Page.Change :=
  { c with elements := c.elements.map fun entry => (entry.1, entry.2.blinded) }

def Action.blinded : Action → Action
  | change c => .change c.blinded
  | other => other

/-- The steps do the same, and the page does not call back. Their failing canvas calls may differ,
and the drawing contexts that come with a change of the page. -/
structure Step.Matches (st other : Step) : Prop where
  action : st.action.blinded = other.action.blinded
  calm : st.hook? = none ∧ other.hook? = none

def Renderer.blinded (r : Renderer) : Renderer :=
  { r with draws := false }

def Widget.blinded (w : Widget) : Widget :=
  { w with renderer? := w.renderer?.map Renderer.blinded }

theorem Page.element?_blinded (page : Page) (id : String) :
    page.blinded.element? id = (page.element? id).map Element.blinded := by
  unfold element? blinded
  induction page.elements with
  | nil => rfl
  | cons entry elements ih =>
      rw [List.map_cons, List.lookup_cons, List.lookup_cons]
      split
      · rfl
      · exact ih

theorem Page.container?_blinded (page : Page) (id : String) :
    page.blinded.container? id = page.container? id := by
  unfold container?
  rw [element?_blinded]
  cases page.element? id <;> rfl

theorem Page.canvasProblem?_blinded (page : Page) (id : String) :
    page.blinded.canvasProblem? id = page.canvasProblem? id := by
  unfold canvasProblem?
  rw [element?_blinded]
  cases page.element? id <;> rfl

theorem Page.change_blinded (page : Page) (c : Page.Change) :
    (page.change c).blinded = page.blinded.change c.blinded := by
  have elements (entries : List (String × Element)) (page : Page) :
      (entries.foldl (fun page entry => page.setElement entry.1 entry.2) page).blinded =
        (entries.map fun entry => (entry.1, entry.2.blinded)).foldl
          (fun page entry => page.setElement entry.1 entry.2) page.blinded := by
    induction entries generalizing page with
    | nil => rfl
    | cons entry entries ih => exact ih _
  exact elements c.elements _

theorem Renderer.eq_of_blinded {r other : Renderer} (same : r.blinded = other.blinded) :
    other = { r with draws := other.draws } := by
  cases r
  cases other
  simpa [blinded, eq_comm] using same

theorem Widget.same_of_blinded {α : Type} {w v : Widget} (same : w.blinded = v.blinded)
    (f : Widget → α) : f w.blinded = f v.blinded :=
  congrArg f same

namespace Session

def remaining (s : Session) : List Effect :=
  s.journal.toList.filter fun effect => !effect.ofDrawing

/-- The answers of the steps, with the effects of each but for drawing. -/
def outcomes : Session → List Step → List (Reply × List Effect)
  | _, [] => []
  | s, st :: steps => ((s.step st).1, (s.step st).2.remaining) :: outcomes (s.step st).2 steps

/-- The pages do not call back, and the sessions are the same but for drawing. -/
structure Alike (s t : Session) : Prop where
  calm : s.hook? = none ∧ t.hook? = none
  page : s.page.blinded = t.page.blinded
  widget : s.widget?.map Widget.blinded = t.widget?.map Widget.blinded
  logging : s.logging = t.logging
  nextOwner : s.nextOwner = t.nextOwner
  remaining : s.remaining = t.remaining

variable {s t : Session}

theorem Alike.symm (alike : Alike s t) : Alike t s :=
  ⟨alike.calm.symm, alike.page.symm, alike.widget.symm, alike.logging.symm, alike.nextOwner.symm,
    alike.remaining.symm⟩

theorem Alike.setting {α : Type} (alike : Alike s t) (f : Page → α) :
    f s.page.blinded = f t.page.blinded :=
  congrArg f alike.page

theorem remaining_record (s : Session) (effect : Effect) :
    (s.record effect).remaining =
      s.remaining ++ if effect.ofDrawing then [] else [effect] := by
  cases hidden : effect.ofDrawing <;> simp [remaining, record, hidden]

theorem alike_paired : Paired Alike hooked hooked where
  record s t effect h := by
    refine ⟨h.calm, h.page, h.widget, h.logging, h.nextOwner, ?_⟩
    rw [remaining_record, remaining_record, h.remaining]
  answer signal s t h := by
    rw [hooked_of_calm h.calm.1, hooked_of_calm h.calm.2]
    exact h
  logging _ _ h := h.logging
  measured s t canvas h := by
    have container : s.page.container? canvas = t.page.container? canvas := by
      rw [← Page.container?_blinded, h.page, Page.container?_blinded]
    have ratio : s.page.ratio = t.page.ratio := h.setting Page.ratio
    have measurement : s.page.measurement = t.page.measurement := by
      funext size
      simp only [Page.measurement, ratio]
    rw [container, measurement]

/-! ## Drawing on one side -/

theorem Alike.draw (alike : Alike s t) {effect : Effect} (hidden : effect.ofDrawing = true) :
    Alike (s.emit hooked effect) t := by
  rw [emit_of_calm alike.calm.1]
  refine ⟨alike.calm, alike.page, alike.widget, alike.logging, alike.nextOwner, ?_⟩
  simpa [remaining_record, hidden] using alike.remaining

theorem Alike.drawAll (alike : Alike s t) (commands : List Canvas.Command) :
    Alike (s.emitAll hooked (commands.map .draw)) t := by
  induction commands generalizing s with
  | nil => exact alike
  | cons command commands ih => exact ih (alike.draw rfl)

theorem Alike.warnHidden (alike : Alike s t) {text : String}
    (hidden : (Effect.log ⟨.warn, text⟩).ofDrawing = true) : Alike (s.warn hooked text) t := by
  unfold warn Session.log
  split
  · exact alike.draw hidden
  · exact alike

theorem ofDrawing_skipped (message : String) :
    (Effect.log ⟨.warn, "frame skipped: " ++ message⟩).ofDrawing = true := by
  simp [Effect.ofDrawing, String.toList_append]

theorem Alike.paint (alike : Alike s t) (scene : Scene) : Alike (s.paint hooked scene) t := by
  have broken : Alike { s with
      breakage? := (Canvas.play s.breakage? scene.picture).pending? } t :=
    ⟨alike.calm, alike.page, alike.widget, alike.logging, alike.nextOwner, alike.remaining⟩
  have drawn := broken.drawAll (Canvas.play s.breakage? scene.picture).performed
  unfold Session.paint
  dsimp only
  split
  · exact drawn.warnHidden (ofDrawing_skipped _)
  · exact drawn

theorem Alike.paintIf (alike : Alike s t) (draws : Bool) (scene : Scene) :
    Alike (if draws then s.paint hooked scene else s) t := by
  cases draws with
  | true => exact alike.paint scene
  | false => exact alike

theorem Alike.frame (alike : Alike s t) (r : Renderer) (draws : Bool) :
    ∃ scene a b, frame hooked r s = ({ r with scene }, a) ∧
      frame hooked { r with draws } t = ({ r with draws, scene }, b) ∧ Alike a b := by
  obtain ⟨fitted, scene, a, b, left, right, after⟩ := alike_paired.fitCanvas r draws alike
  unfold Session.frame
  rw [left, right]
  cases fitted with
  | true =>
      -- each side paints, or does not, on its own: painting has no counterpart on the other side
      exact ⟨scene, _, _, rfl, rfl, ((after.paintIf r.draws scene).symm.paintIf draws scene).symm⟩
  | false => exact ⟨scene, _, _, rfl, rfl, alike_paired.log _ after⟩

/-! ## Working with the renderer -/

theorem Alike.maps (alike : Alike s t) :
    (s.widget? = none ∧ t.widget? = none) ∨
      ∃ w v, s.widget? = some w ∧ t.widget? = some v ∧ w.blinded = v.blinded := by
  have same := alike.widget
  cases found : s.widget? <;> cases there : t.widget? <;> simp [found, there] at same
  · exact .inl ⟨rfl, rfl⟩
  · exact .inr ⟨_, _, rfl, rfl, same⟩

theorem Alike.setWidget (alike : Alike s t) {later next : Session}
    (left : later = { s with widget? := later.widget? })
    (right : next = { t with widget? := next.widget? })
    (same : later.widget?.map Widget.blinded = next.widget?.map Widget.blinded) :
    Alike later next := by
  rw [left, right]
  exact ⟨alike.calm, alike.page, same, alike.logging, alike.nextOwner, alike.remaining⟩

theorem Alike.onWidget (alike : Alike s t) (f : Widget → Widget)
    (commutes : ∀ w, (f w).blinded = f w.blinded) : Alike (s.onWidget f) (t.onWidget f) := by
  refine alike.setWidget rfl rfl ?_
  rcases alike.maps with ⟨found, there⟩ | ⟨w, v, found, there, same⟩
  · simp [found, there]
  · simp [found, there, commutes, same]

theorem Alike.giveBack (alike : Alike s t) (r : Renderer) (draws : Bool) :
    Alike (s.onWidget fun w => { w with renderer? := some r })
      (t.onWidget fun w => { w with renderer? := some { r with draws } }) := by
  refine alike.setWidget rfl rfl ?_
  rcases alike.maps with ⟨found, there⟩ | ⟨w, v, found, there, same⟩
  · simp [found, there]
  · cases w
    cases v
    simp_all [Widget.blinded, Renderer.blinded]

theorem Alike.renderers (alike : Alike s t) :
    (s.renderer? = none ∧ t.renderer? = none) ∨
      ∃ r draws, s.renderer? = some r ∧ t.renderer? = some { r with draws } := by
  rcases alike.maps with ⟨found, there⟩ | ⟨w, v, found, there, same⟩
  · exact .inl (by simp [renderer?, found, there])
  · have blinded : w.renderer?.map Renderer.blinded = v.renderer?.map Renderer.blinded :=
      congrArg Widget.renderer? same
    cases held : w.renderer? <;> cases has : v.renderer? <;> simp [held, has] at blinded
    · exact .inl (by simp [renderer?, found, there, held, has])
    · rename_i r other
      refine .inr ⟨r, other.draws, by simp [renderer?, found, held], ?_⟩
      rw [← Renderer.eq_of_blinded blinded]
      simp [renderer?, there, has]

theorem Alike.lend (alike : Alike s t) {refuse : Session → Session}
    {use : Renderer → Session → Renderer × Session}
    (refused : Alike (refuse s) (refuse t))
    (used : ∀ r draws a b, Alike a b → ∃ scene a' b', use r a = ({ r with scene }, a') ∧
      use { r with draws } b = ({ r with draws, scene }, b') ∧ Alike a' b') :
    Alike (s.lend refuse use) (t.lend refuse use) := by
  unfold Session.lend
  rcases alike.renderers with ⟨held, has⟩ | ⟨r, draws, held, has⟩
  · rw [held, has]
    exact refused
  · have lent : Alike (s.onWidget fun w => { w with renderer? := none })
        (t.onWidget fun w => { w with renderer? := none }) := alike.onWidget _ fun _ => rfl
    obtain ⟨scene, a, b, left, right, after⟩ := used r draws _ _ lent
    rw [held, has]
    dsimp only
    rw [left, right]
    exact after.giveBack { r with scene } draws

theorem Alike.input (alike : Alike s t) (i : Scene.Input) :
    Alike (s.input hooked i) (t.input hooked i) :=
  alike.lend (alike_paired.log _ alike) fun r _ _ _ h =>
    ⟨(r.scene.apply i).1, _, _, rfl, rfl, alike_paired.logAll _ h⟩

theorem Alike.lend_frame (alike : Alike s t) (text : String) :
    Alike (s.lend (warn hooked text) (Session.frame hooked))
      (t.lend (warn hooked text) (Session.frame hooked)) :=
  alike.lend (alike_paired.log _ alike) fun r draws _ _ h => h.frame r draws

theorem Alike.resize (alike : Alike s t) : Alike (s.resize hooked) (t.resize hooked) := by
  refine alike.lend (alike_paired.log _ alike) fun r draws a b h => ?_
  obtain ⟨fitted, scene, _, _, left, right, after⟩ := alike_paired.fitCanvas r draws h
  unfold refit
  rw [left, right]
  cases fitted with
  | true => exact ⟨scene, _, _, rfl, rfl, after⟩
  | false => exact ⟨scene, _, _, rfl, rfl, alike_paired.log _ after⟩

theorem Alike.read {α : Type} (alike : Alike s t) (default : α) (f : Scene → α) :
    s.read default f = t.read default f := by
  rcases alike.renderers with ⟨held, has⟩ | ⟨r, draws, held, has⟩ <;>
    simp [Session.read, held, has]

/-! ## The frame loop -/

theorem Alike.schedule (alike : Alike s t) : Alike (s.schedule hooked) (t.schedule hooked) := by
  have window : s.page.window = t.page.window := alike.setting Page.window
  have refusal : s.page.requestError? = t.page.requestError? := alike.setting Page.requestError?
  have nextId : s.page.nextId = t.page.nextId := alike.setting Page.nextId
  rcases alike.maps with ⟨found, there⟩ | ⟨w, v, found, there, same⟩
  · simpa [Session.schedule, found, there] using alike
  · have owner : w.owner = v.owner := Widget.same_of_blinded same Widget.owner
    by_cases granting : t.grants
    · have granted : s.grants := ⟨window.trans granting.1, refusal.trans granting.2⟩
      have asked : Alike { s with page := s.page.request v.owner }
          { t with page := t.page.request v.owner } :=
        ⟨alike.calm, alike.setting fun page => page.request v.owner, alike.widget, alike.logging,
          alike.nextOwner, alike.remaining⟩
      rw [schedule_granted hooked found granted, schedule_granted hooked there granting, owner,
        nextId]
      apply Alike.onWidget
      · exact alike_paired.emit _ asked
      · exact fun _ => rfl
    · simp only [Session.schedule, found, there, window, refusal]
      split
      · exact alike_paired.log _ alike
      · split
        · exact alike_paired.log _ alike
        · simp_all [grants]

theorem Alike.start (alike : Alike s t) : Alike (s.start hooked) (t.start hooked) := by
  rcases alike.maps with ⟨found, there⟩ | ⟨w, v, found, there, same⟩
  · simpa [Session.start, found, there] using alike
  · have running : w.running = v.running := Widget.same_of_blinded same Widget.running
    simp only [Session.start, found, there, running]
    split
    · exact alike
    · apply Alike.schedule
      apply Alike.onWidget
      · exact alike_paired.log _ alike
      · exact fun _ => rfl

theorem Alike.cancelRequest (alike : Alike s t) (id : Nat) :
    Alike (s.cancelRequest hooked id) (t.cancelRequest hooked id) := by
  have told := alike_paired.emit (.cancelled id) alike
  have refusal : (s.emit hooked (.cancelled id)).page.cancelError? =
      (t.emit hooked (.cancelled id)).page.cancelError? := told.setting Page.cancelError?
  unfold Session.cancelRequest
  dsimp only
  rw [refusal]
  split
  · exact alike_paired.log _ told
  · exact ⟨told.calm, told.setting fun page => page.cancel id, told.widget, told.logging,
      told.nextOwner, told.remaining⟩

theorem Alike.handle (alike : Alike s t) :
    s.widget?.bind Widget.handle? = t.widget?.bind Widget.handle? := by
  rcases alike.maps with ⟨found, there⟩ | ⟨w, v, found, there, same⟩
  · rw [found, there]
  · rw [found, there]
    exact Widget.same_of_blinded same Widget.handle?

theorem Alike.stop (alike : Alike s t) : Alike (s.stop hooked) (t.stop hooked) := by
  have window : s.page.window = t.page.window := alike.setting Page.window
  unfold Session.stop
  rw [alike.handle]
  split
  · exact alike
  · rename_i id _
    have released : Alike (s.onWidget fun w => { w with handle? := none })
        (t.onWidget fun w => { w with handle? := none }) := alike.onWidget _ fun _ => rfl
    refine alike_paired.log _ ?_
    cases there : t.page.window with
    | true => simpa [window, there] using released.cancelRequest id
    | false => simpa [window, there] using released

theorem Alike.grant (alike : Alike s t) (time : Float) (request : Request) :
    Alike (s.grant hooked time request) (t.grant hooked time request) := by
  rcases alike.maps with ⟨found, there⟩ | ⟨w, v, found, there, same⟩
  · simpa [Session.grant, grantBy, found, there] using alike
  · have owner : w.owner = v.owner := Widget.same_of_blinded same Widget.owner
    have pacer : w.pacer = v.pacer := Widget.same_of_blinded same Widget.pacer
    have offered : Alike
        (s.onWidget fun w => { w with handle? := none, pacer := w.pacer.offer time })
        (t.onWidget fun w => { w with handle? := none, pacer := w.pacer.offer time }) :=
      alike.onWidget _ fun _ => rfl
    simp only [Session.grant, grantBy, found, there, owner, pacer]
    split
    · apply Alike.schedule
      split
      · exact offered.lend_frame _
      · exact offered
    · exact alike

theorem Alike.tick (alike : Alike s t) (time : Float) :
    (s.tick hooked time).1 = (t.tick hooked time).1 ∧
      Alike (s.tick hooked time).2 (t.tick hooked time).2 := by
  have queue : s.page.queue = t.page.queue := alike.setting Page.queue
  have granted (requests : List Request) {s t : Session} (alike : Alike s t) :
      Alike (requests.foldl (Session.grant hooked time) s)
        (requests.foldl (Session.grant hooked time) t) := by
    induction requests generalizing s t with
    | nil => exact alike
    | cons request requests ih => exact ih (alike.grant time request)
  unfold Session.tick tickBy
  rw [queue]
  refine ⟨rfl, granted _ ⟨alike.calm, ?_, alike.widget, alike.logging, alike.nextOwner,
    alike.remaining⟩⟩
  exact alike.setting fun page => { page with queue := [] }

/-! ## Calls and steps -/

theorem Alike.event (alike : Alike s t) (name payload : String) :
    (s.event hooked name payload).1 = (t.event hooked name payload).1 ∧
      Alike (s.event hooked name payload).2 (t.event hooked name payload).2 := by
  unfold Session.event
  split
  · exact ⟨rfl, alike_paired.log _ alike⟩
  · exact ⟨rfl, alike.input (.event _)⟩

theorem Alike.isRunning (alike : Alike s t) : s.isRunning = t.isRunning := by
  rcases alike.maps with ⟨found, there⟩ | ⟨w, v, found, there, same⟩
  · simp [Session.isRunning, found, there]
  · have running : w.running = v.running := Widget.same_of_blinded same Widget.running
    simp [Session.isRunning, found, there, running]

theorem Alike.hasMap (alike : Alike s t) : s.hasMap = t.hasMap := by
  rcases alike.maps with ⟨found, there⟩ | ⟨w, v, found, there, same⟩
  · simp [Session.hasMap, found, there]
  · have leaving : w.leaving = v.leaving := Widget.same_of_blinded same Widget.leaving
    simp [Session.hasMap, found, there, leaving]

theorem Alike.callMap (alike : Alike s t) (c : Call) :
    (s.callMap hooked c).1 = (t.callMap hooked c).1 ∧
      Alike (s.callMap hooked c).2 (t.callMap hooked c).2 := by
  cases c with
  | tick time =>
      obtain ⟨granted, after⟩ := alike.tick time
      exact ⟨congrArg Reply.count granted, after⟩
  | position p => exact ⟨rfl, alike.input (.position p)⟩
  | originReset => exact ⟨rfl, alike.input .originReset⟩
  | scale value => exact ⟨rfl, alike.input (.scale value)⟩
  | connection connected => exact ⟨rfl, alike.input (.connection connected)⟩
  | event name payload => exact alike.event name payload
  | start => exact ⟨rfl, alike.start⟩
  | stop => exact ⟨rfl, alike.stop⟩
  | isRunning => exact ⟨congrArg Reply.flag alike.isRunning, alike⟩
  | resize => exact ⟨rfl, alike.resize⟩
  | renderOnce => exact ⟨rfl, alike.lend_frame _⟩
  | scaleLabel => exact ⟨congrArg Reply.text (alike.read _ _), alike⟩
  | positionLabels => exact ⟨congrArg Reply.texts (alike.read _ _), alike⟩
  | trailLength | satellites => exact ⟨congrArg Reply.count (alike.read _ _), alike⟩
  | isConnected => exact ⟨congrArg Reply.flag (alike.read _ _), alike⟩
  | fixStatus => exact ⟨congrArg Reply.maybeText (alike.read _ _), alike⟩

theorem Alike.call (alike : Alike s t) (c : Call) :
    (s.call hooked c).1 = (t.call hooked c).1 ∧
      Alike (s.call hooked c).2 (t.call hooked c).2 := by
  unfold Session.call
  rw [alike.hasMap]
  split
  · exact alike.callMap _
  · split
    · exact alike.callMap c
    · exact ⟨rfl, alike⟩

theorem Alike.load (alike : Alike s t) : Alike (s.load hooked) (t.load hooked) := by
  have shown : Alike { s with logging := true } { t with logging := true } :=
    ⟨alike.calm, alike.page, alike.widget, rfl, alike.nextOwner, alike.remaining⟩
  unfold Session.load
  rw [alike.logging]
  split
  · exact alike
  · exact alike_paired.log _ shown

theorem Alike.release (alike : Alike s t) : Alike (s.release hooked) (t.release hooked) := by
  have leaving : Alike (s.onWidget fun w => { w with leaving := true })
      (t.onWidget fun w => { w with leaving := true }) := alike.onWidget _ fun _ => rfl
  exact leaving.stop.setWidget rfl rfl rfl

/-- Only one of two maps that are made on the same canvas may warn of a missing context. -/
theorem Alike.mount (alike : Alike s t) (canvas : String) (settings : Settings) :
    Alike (s.mount hooked canvas settings) (t.mount hooked canvas settings) := by
  have warned (draws : Bool) {s t : Session} (alike : Alike s t) : Alike
      (if draws then s
        else s.warn hooked "canvas has no 2d context; frames will be skipped") t := by
    cases draws with
    | true => exact alike
    | false => exact alike.warnHidden rfl
  have begun := (warned (t.page.draws canvas)
    (warned (s.page.draws canvas) alike).symm).symm
  obtain ⟨fitted, scene, a, b, left, right, after⟩ := alike_paired.fitCanvas
    ⟨canvas, s.page.draws canvas, .ofSettings settings⟩ (t.page.draws canvas) begun
  have bound := alike_paired.log
    ⟨.info, "renderer bound to #" ++ canvas ++ " (scale " ++
      Number.shown settings.initialScale ++ " m)"⟩
    (alike_paired.warnUnless fitted
      ("#" ++ canvas ++ " has no container; frames skipped until it is attached") after)
  unfold Session.mount
  dsimp only
  rw [left, right]
  exact ⟨bound.calm, bound.page,
    by simpa [Widget.blinded, Renderer.blinded, info] using bound.nextOwner, bound.logging,
    congrArg (· + 1) bound.nextOwner, bound.remaining⟩

theorem Alike.create (alike : Alike s t) (canvas settings : String) :
    (s.create hooked canvas settings).1 = (t.create hooked canvas settings).1 ∧
      Alike (s.create hooked canvas settings).2 (t.create hooked canvas settings).2 := by
  have problem : s.page.canvasProblem? canvas = t.page.canvasProblem? canvas := by
    rw [← Page.canvasProblem?_blinded, alike.page, Page.canvasProblem?_blinded]
  unfold Session.create
  rw [problem]
  split
  · exact ⟨rfl, alike⟩
  · split
    · exact ⟨rfl, alike⟩
    · exact ⟨rfl, alike.mount canvas _⟩

theorem Alike.act (alike : Alike s t) {action other : Action}
    (same : action.blinded = other.blinded) :
    (s.act hooked action).1 = (t.act hooked other).1 ∧
      Alike (s.act hooked action).2 (t.act hooked other).2 := by
  cases action <;> cases other <;> simp only [Action.blinded, Action.change.injEq,
    Action.create.injEq, Action.call.injEq, reduceCtorEq] at same
  case change.change c d =>
    refine ⟨rfl, alike.calm, ?_, alike.widget, alike.logging, alike.nextOwner, alike.remaining⟩
    change (s.page.change c).blinded = (t.page.change d).blinded
    rw [Page.change_blinded, Page.change_blinded, same, alike.page]
  case load.load => exact ⟨rfl, alike.load⟩
  case create.create canvas settings _ _ =>
    obtain ⟨rfl, rfl⟩ := same
    exact alike.release.create canvas settings
  case release.release => exact ⟨rfl, alike.release⟩
  case call.call c _ =>
    cases same
    exact alike.call c

theorem Alike.step (alike : Alike s t) {st other : Step} (same : st.Matches other) :
    (s.step st).1 = (t.step other).1 ∧ Alike (s.step st).2 (t.step other).2 := by
  have armed : Alike (s.armed st) (t.armed other) :=
    ⟨same.calm, alike.page, alike.widget, alike.logging, alike.nextOwner, rfl⟩
  exact armed.act same.action

theorem Alike.outcomes (alike : Alike s t) {steps others : List Step}
    (same : List.Forall₂ Step.Matches steps others) : s.outcomes steps = t.outcomes others := by
  induction same generalizing s t with
  | nil => rfl
  | cons first _ ih =>
      -- the journal starts anew with every step, so its part is in `after`
      obtain ⟨replies, after⟩ := alike.step first
      exact congrArg₂ List.cons (congrArg₂ Prod.mk replies after.remaining) (ih after)

theorem alike_opened {c d : Page.Change} (same : c.blinded = d.blinded) :
    Alike (opened c) (opened d) := by
  refine ⟨⟨rfl, rfl⟩, ?_, rfl, rfl, rfl, rfl⟩
  change (Page.blank.change c).blinded = (Page.blank.change d).blinded
  rw [Page.change_blinded, Page.change_blinded, same]

/-- Two sessions in which the page does not call back, with the same steps but for the canvas calls
that fail and the drawing contexts: every step gives the same answer, and the same effects but for
drawing. If the canvases of the maps give out no drawing context, no step draws. -/
theorem outcomes_of_blinded {c d : Page.Change} (page : c.blinded = d.blinded)
    {steps others : List Step} (same : List.Forall₂ Step.Matches steps others) :
    (opened c).outcomes steps = (opened d).outcomes others ∧
    ∀ canvases : String → Prop, c.Contextless canvases →
      (∀ st ∈ steps, st.action.Contextless canvases) →
        ∀ n command, .draw command ∉ ((opened c).run (steps.take n)).journal := by
  refine ⟨(alike_opened page).outcomes same, fun canvases contextless stepped n => ?_⟩
  exact ((undrawn_opened contextless).run (steps.take n)
    fun st member => stepped st (List.mem_of_mem_take member)).journal

/-- A canvas without a drawing context, and one on which the second frame fails. -/
theorem outcomes_of_failing_transform :
    let tick (breakage? : Option Canvas.Breakage) : Step := ⟨.call (.tick 32), breakage?, none⟩
    let failing := tick (some ⟨"setTransform", 1, "out of memory"⟩)
    (opened framed.blinded).outcomes (looped ++ [tick none]) =
        (opened framed).outcomes (looped ++ [failing]) ∧
      (∀ n command, .draw command ∉
        ((opened framed.blinded).run ((looped ++ [tick none]).take n)).journal) ∧
      ((opened framed).run (looped ++ [failing])).journal.toList.any Effect.ofDrawing = true := by
  intro tick failing
  have same : List.Forall₂ Step.Matches (looped ++ [tick none]) (looped ++ [failing]) := by
    repeat' constructor
  have outcomes := outcomes_of_blinded (c := framed.blinded) (d := framed) rfl same
  refine ⟨outcomes.1, outcomes.2 (· = "map") ?_ ?_, by decide +kernel⟩
  · simp [framed, Page.Change.blinded, Page.Change.Contextless, Element.blinded]
  · simp [looped, tick, Action.Contextless]

end Session

end PositionMap
