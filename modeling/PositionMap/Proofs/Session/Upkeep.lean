import PositionMap.Session.Step

/-! # What a session keeps

A property of sessions holds throughout a call when every single change that the call can make keeps
it. The changes are few: `Vocal` lists those that logging makes, `Fitting` adds the resizing of the
canvas and `Steady` the drawing, `Lendable` the lending of the renderer, and `Enduring` the changes
of the frame loop and of a hook. From them follows, call by call, that the property is kept, also
when the page calls back in between.
-/

namespace PositionMap

def Effect.asks : Effect → Bool
  | requested _ => true
  | _ => false

/-- Whether it is an input that a call gives to the scene, and not one of the frames. -/
def Scene.Input.called : Scene.Input → Bool
  | size _ | container _ | fix _ => false
  | _ => true

namespace Session

def Keeps (react : Reaction) (P : Session → Prop) : Prop :=
  ∀ signal s, P s → P (react signal s)

theorem quiet_keeps (P : Session → Prop) : Keeps quiet P :=
  fun _ _ h => h

/-- A property that is kept when a log entry or a cancellation is recorded. -/
structure Vocal (P : Session → Prop) : Prop where
  entry : ∀ s entry, P s → P (s.record (.log entry))
  cancelled : ∀ s id, P s → P (s.record (.cancelled id))

structure Fitting (P : Session → Prop) : Prop extends Vocal P where
  width : ∀ s pixels, P s → P (s.record (.canvasWidth pixels))
  height : ∀ s pixels, P s → P (s.record (.canvasHeight pixels))

structure Steady (P : Session → Prop) : Prop extends Fitting P where
  record : ∀ s (effect : Effect), effect.asks = false → P s → P (s.record effect)
  breakage : ∀ s breakage?, P s → P { s with breakage? }
  entry := fun s entry h => record s (.log entry) rfl h
  cancelled := fun s id h => record s (.cancelled id) rfl h
  width := fun s pixels h => record s (.canvasWidth pixels) rfl h
  height := fun s pixels h => record s (.canvasHeight pixels) rfl h

structure Lendable (P : Session → Prop) : Prop extends Steady P where
  lending : ∀ s renderer?, P s → P (s.onWidget fun w => { w with renderer? })

structure Circling (P : Session → Prop) : Prop extends Vocal P where
  pace : ∀ s (f : Pacer → Pacer), P s → P (s.onWidget fun w => { w with pacer := f w.pacer })
  letGo : ∀ s (f : Pacer → Pacer), P s →
    P (s.onWidget fun w => { w with handle? := none, pacer := f w.pacer })
  cancel : ∀ s id, P s → P { s with page := s.page.cancel id }
  take : ∀ s, P s → P { s with page := { s.page with queue := [] } }

structure Looping (P : Session → Prop) : Prop extends Steady P, Circling P

/-- A property that is kept by all that a call can do, requests aside. -/
structure Enduring (P : Session → Prop) : Prop extends Lendable P, Looping P where
  unhook : ∀ s, P s → P { s with hook? := none }
  answer : ∀ s hookReplies, P s → P { s with hookReplies }

structure Lasting (P : Session → Prop) : Prop extends Enduring P where
  change : ∀ s c, P s → P { s with page := s.page.change c }
  logging : ∀ s, P s → P { s with logging := true }
  leave : ∀ s, P s → P (s.onWidget fun w => { w with leaving := true })
  retire : ∀ s, P s → P { s with widget? := none }
  install : ∀ s renderer? pacer, P s →
    P { s with widget? := some ⟨s.nextOwner, renderer?, none, pacer, false⟩,
               nextOwner := s.nextOwner + 1 }

def Schedules (react : Reaction) (P : Session → Prop) : Prop :=
  ∀ s, P s → P (s.schedule react)

theorem Lasting.or {P Q : Session → Prop} (p : Lasting P) (q : Lasting Q) :
    Lasting fun s => P s ∨ Q s where
  record s e free := Or.imp (p.record s e free) (q.record s e free)
  breakage s b := Or.imp (p.breakage s b) (q.breakage s b)
  lending s r := Or.imp (p.lending s r) (q.lending s r)
  pace s f := Or.imp (p.pace s f) (q.pace s f)
  letGo s f := Or.imp (p.letGo s f) (q.letGo s f)
  cancel s id := Or.imp (p.cancel s id) (q.cancel s id)
  take s := Or.imp (p.take s) (q.take s)
  unhook s := Or.imp (p.unhook s) (q.unhook s)
  answer s replies := Or.imp (p.answer s replies) (q.answer s replies)
  change s c := Or.imp (p.change s c) (q.change s c)
  logging s := Or.imp (p.logging s) (q.logging s)
  leave s := Or.imp (p.leave s) (q.leave s)
  retire s := Or.imp (p.retire s) (q.retire s)
  install s r pacer := Or.imp (p.install s r pacer) (q.install s r pacer)

variable {P : Session → Prop} {react : Reaction} {s : Session}

/-! ## Drawing and logging -/

theorem Steady.emit (steady : Steady P) (keeps : Keeps react P) (effect : Effect)
    (free : effect.asks = false) (h : P s) : P (s.emit react effect) :=
  keeps _ _ (steady.record s effect free h)

theorem Steady.emitAll (steady : Steady P) (keeps : Keeps react P) {effects : List Effect}
    (free : ∀ effect ∈ effects, effect.asks = false) (h : P s) :
    P (s.emitAll react effects) := by
  induction effects generalizing s with
  | nil => exact h
  | cons effect effects ih =>
      exact ih (fun e he => free e (List.mem_cons_of_mem _ he))
        (steady.emit keeps effect (free effect List.mem_cons_self) h)

theorem Vocal.log (vocal : Vocal P) (keeps : Keeps react P) (entry : Entry) (h : P s) :
    P (s.log react entry) := by
  unfold Session.log
  split
  · exact keeps _ _ (vocal.entry s entry h)
  · exact h

theorem Vocal.logAll (vocal : Vocal P) (keeps : Keeps react P) (entries : List Entry)
    (h : P s) : P (s.logAll react entries) := by
  induction entries generalizing s with
  | nil => exact h
  | cons entry entries ih => exact ih (vocal.log keeps entry h)

theorem Vocal.warnUnless (vocal : Vocal P) (keeps : Keeps react P) (fine : Bool)
    (text : String) (h : P s) : P (if fine then s else s.warn react text) := by
  cases fine with
  | true => exact h
  | false => exact vocal.log keeps _ h

theorem measure_keeps (keeps : Keeps react P) (canvas : String) (h : P s) :
    P (s.measure react canvas).2 := by
  unfold Session.measure
  split
  · exact h
  · exact keeps _ _ h

theorem Fitting.fitCanvas (fitting : Fitting P) (keeps : Keeps react P) (r : Renderer) (h : P s) :
    P (s.fitCanvas react r).2.2 := by
  have measured := measure_keeps keeps r.canvas h
  unfold Session.fitCanvas
  split
  · rename_i found
    simpa [found] using measured
  · rename_i m later found
    rw [found] at measured
    have logged := fitting.logAll keeps (r.scene.fit m).2 measured
    dsimp only
    split
    · exact keeps _ _ (fitting.height _ _ (keeps _ _ (fitting.width _ _ logged)))
    · exact logged

theorem Steady.paint (steady : Steady P) (keeps : Keeps react P) (scene : Scene) (h : P s) :
    P (s.paint react scene) := by
  have drawn : P (({ s with
      breakage? := (Canvas.play s.breakage? scene.picture).pending? } : Session).emitAll react
        ((Canvas.play s.breakage? scene.picture).performed.map .draw)) := by
    refine steady.emitAll keeps ?_ (steady.breakage s _ h)
    intro effect member
    obtain ⟨command, _, rfl⟩ := List.mem_map.mp member
    rfl
  unfold Session.paint
  dsimp only
  split
  · exact steady.log keeps _ drawn
  · exact drawn

theorem Steady.frame (steady : Steady P) (keeps : Keeps react P) (r : Renderer) (h : P s) :
    P (frame react r s).2 := by
  have fitted := steady.fitCanvas keeps r h
  unfold Session.frame
  split <;> rename_i found <;> rw [found] at fitted
  · dsimp only
    split
    · exact steady.paint keeps _ fitted
    · exact fitted
  · exact steady.log keeps _ fitted

theorem Fitting.refit (fitting : Fitting P) (keeps : Keeps react P) (r : Renderer) (h : P s) :
    P (refit react r s).2 := by
  have fitted := fitting.fitCanvas keeps r h
  unfold Session.refit
  split <;> rename_i found <;> rw [found] at fitted
  · exact fitted
  · exact fitting.log keeps _ fitted

theorem refit_fst (react : Reaction) (r : Renderer) (s : Session) :
    (refit react r s).1 = (s.fitCanvas react r).2.1 := by
  unfold refit
  split <;> simp [*]

def sized (react : Reaction) (scene : Scene) (m : Measurement) (s : Session) : Session :=
  let s := s.logAll react (scene.fit m).2
  if scene.differs m then
    (s.emit react (.canvasWidth (backingSize m.width m.ratio))).emit react
      (.canvasHeight (backingSize m.height m.ratio))
  else s

theorem fitCanvas_of_measured {r : Renderer} {m : Measurement} {later : Session}
    (measured : s.measure react r.canvas = (some m, later)) :
    s.fitCanvas react r =
      (true, { r with scene := (r.scene.fit m).1 }, later.sized react r.scene m) := by
  simp only [Session.fitCanvas, measured]
  rfl

theorem fitCanvas_of_unmeasured {r : Renderer} {later : Session}
    (unmeasured : s.measure react r.canvas = (none, later)) :
    s.fitCanvas react r = (false, r, later) := by
  simp only [Session.fitCanvas, unmeasured]

theorem fitCanvas_scene (react : Reaction) (r : Renderer) (s : Session) :
    (s.fitCanvas react r).2.1.scene = r.scene ∨
      ∃ m, (s.fitCanvas react r).2.1.scene = (r.scene.fit m).1 := by
  unfold Session.fitCanvas
  split
  · exact .inl rfl
  · exact .inr ⟨_, rfl⟩

theorem fitCanvas_draws (react : Reaction) (r : Renderer) (s : Session) :
    (s.fitCanvas react r).2.1.draws = r.draws := by
  unfold Session.fitCanvas
  split <;> rfl

/-- Mounting logs, fits the canvas and logs again, and then puts the new map into the session. -/
theorem Fitting.mount_fitted (fitting : Fitting P) (keeps : Keeps react P) (canvas : String)
    (settings : Settings) (h : P s) :
    ∃ bare ready : Session, P bare ∧ P ready ∧
      s.mount react canvas settings =
        { ready with
          widget? := some ⟨ready.nextOwner,
            some (bare.fitCanvas react ⟨canvas, s.page.draws canvas, .ofSettings settings⟩).2.1,
            none, .ofRate settings.maxRate, false⟩
          nextOwner := ready.nextOwner + 1 } := by
  have drawable := fitting.warnUnless keeps (s.page.draws canvas)
    "canvas has no 2d context; frames will be skipped" h
  have fitted := fitting.fitCanvas keeps ⟨canvas, s.page.draws canvas, .ofSettings settings⟩ drawable
  exact ⟨_, _, drawable, fitting.log keeps _ (fitting.warnUnless keeps _ _ fitted), rfl⟩

theorem Fitting.mount_eq (fitting : Fitting P) (keeps : Keeps react P) (canvas : String)
    (settings : Settings) (h : P s) :
    ∃ (ready : Session) (r : Renderer), P ready ∧ r.draws = s.page.draws canvas ∧
      (r.scene = .ofSettings settings ∨ ∃ m, r.scene = ((Scene.ofSettings settings).fit m).1) ∧
      s.mount react canvas settings =
        { ready with
          widget? := some ⟨ready.nextOwner, some r, none, .ofRate settings.maxRate, false⟩
          nextOwner := ready.nextOwner + 1 } := by
  obtain ⟨bare, ready, _, kept, mounted⟩ := fitting.mount_fitted keeps canvas settings h
  exact ⟨ready, _, kept, fitCanvas_draws react _ bare, fitCanvas_scene react _ bare, mounted⟩

/-! ## Calls that work with the renderer -/

theorem Lendable.lend (lendable : Lendable P) {busy : Session → Session}
    {use : Renderer → Session → Renderer × Session} (idle : ∀ s, P s → P (busy s))
    (used : ∀ r s, P s → P (use r s).2) (h : P s) : P (s.lend busy use) := by
  unfold Session.lend
  split
  · exact idle _ h
  · rename_i r _
    exact lendable.lending _ _ (used r _ (lendable.lending s none h))

theorem Lendable.input (lendable : Lendable P) (keeps : Keeps react P) (i : Scene.Input)
    (h : P s) : P (s.input react i) :=
  lendable.lend (fun _ => lendable.log keeps _) (fun _ _ => lendable.logAll keeps _) h

theorem Lendable.resize (lendable : Lendable P) (keeps : Keeps react P) (h : P s) :
    P (s.resize react) :=
  lendable.lend (fun _ => lendable.log keeps _) (fun r _ => lendable.refit keeps r) h

theorem Lendable.renderOnce (lendable : Lendable P) (keeps : Keeps react P) (h : P s) :
    P (s.renderOnce react) :=
  lendable.lend (fun _ => lendable.log keeps _) (fun r _ => lendable.frame keeps r) h

/-! ## The frame loop -/

theorem Vocal.schedules (vocal : Vocal P) (keeps : Keeps react P)
    (request : ∀ s w, s.widget? = some w → P s →
      P ({ s with page := s.page.request w.owner }.record (.requested s.page.nextId)))
    (hold : ∀ s id, P s → P (s.onWidget fun w => { w with handle? := some id })) :
    Schedules react P := by
  intro s h
  unfold Session.schedule
  split
  · exact h
  · rename_i w found
    split
    · exact vocal.log keeps _ h
    · split
      · exact vocal.log keeps _ h
      · exact hold _ _ (keeps _ _ (request s w found h))

def grants (s : Session) : Prop :=
  s.page.window = true ∧ s.page.requestError? = none

theorem schedule_granted (react : Reaction) {w : Widget} (found : s.widget? = some w)
    (granting : s.grants) :
    s.schedule react =
      (({ s with page := s.page.request w.owner } : Session).emit react
        (.requested s.page.nextId)).onWidget fun w => { w with handle? := some s.page.nextId } := by
  obtain ⟨window, accepted⟩ := granting
  simp only [Session.schedule, found, window, accepted]
  rfl

theorem Vocal.schedule_denied (vocal : Vocal P) (keeps : Keeps react P) (denied : ¬ s.grants)
    (h : P s) : P (s.schedule react) := by
  unfold Session.schedule
  split
  · exact h
  · split
    · exact vocal.log keeps _ h
    · split
      · exact vocal.log keeps _ h
      · simp_all [grants]

theorem Circling.start (circling : Circling P) (keeps : Keeps react P)
    (schedules : Schedules react P) (h : P s) : P (s.start react) := by
  unfold Session.start
  split
  · exact h
  · split
    · exact h
    · exact schedules _ (circling.pace _ Pacer.reset (circling.log keeps _ h))

theorem Circling.cancelRequest (circling : Circling P) (keeps : Keeps react P) (id : Nat)
    (h : P s) : P (s.cancelRequest react id) := by
  have told : P (s.emit react (.cancelled id)) := keeps _ _ (circling.cancelled s id h)
  unfold Session.cancelRequest
  dsimp only
  split
  · exact circling.log keeps _ told
  · exact circling.cancel _ id told

theorem Circling.stop (circling : Circling P) (keeps : Keeps react P) (h : P s) :
    P (s.stop react) := by
  unfold Session.stop
  split
  · exact h
  · rename_i id _
    have released := circling.letGo s (fun pacer => pacer) h
    refine circling.log keeps _ ?_
    split
    · exact circling.cancelRequest keeps id released
    · exact released

theorem Lendable.loopFrame (lendable : Lendable P) (keeps : Keeps react P) (h : P s) :
    P (s.loopFrame react) :=
  lendable.lend (fun _ => lendable.log keeps _) (fun r _ => lendable.frame keeps r) h

/-- A frame that is granted to the map comes down to making the next request. -/
theorem Lendable.grant_eq (lendable : Lendable P) (keeps : Keeps react P) (time : Float)
    {request : Request} {w : Widget} (found : s.widget? = some w) (own : w.owner = request.owner)
    (h : P (s.onWidget fun w => { w with handle? := none, pacer := w.pacer.offer time })) :
    ∃ later, P later ∧ s.grant react time request = later.schedule react := by
  let offered := s.onWidget fun w => { w with handle? := none, pacer := w.pacer.offer time }
  refine ⟨if w.pacer.admits time then offered.loopFrame react else offered, ?_, ?_⟩
  · split
    · exact lendable.loopFrame keeps h
    · exact h
  · simp [Session.grant, grantBy, found, own, offered, Session.loopFrame]

theorem grant_of_foreign (react : Reaction) (time : Float) {request : Request}
    (foreign : ∀ w, s.widget? = some w → request.owner ≠ w.owner) :
    s.grant react time request = s := by
  unfold Session.grant grantBy
  split
  · rfl
  · rename_i w found
    rw [if_neg (foreign w found).symm]

theorem Circling.grant (circling : Circling P) (framed : ∀ s, P s → P (s.loopFrame react))
    (schedules : Schedules react P) (time : Float) (request : Request) (h : P s) :
    P (s.grant react time request) := by
  unfold Session.grant grantBy
  split
  · exact h
  · split
    · have offered := circling.letGo s (fun pacer => pacer.offer time) h
      refine schedules _ ?_
      split
      · exact framed _ offered
      · exact offered
    · exact h

theorem Circling.foldl_grant (circling : Circling P) (framed : ∀ s, P s → P (s.loopFrame react))
    (schedules : Schedules react P) (time : Float) (requests : List Request) (h : P s) :
    P (requests.foldl (Session.grant react time) s) := by
  induction requests generalizing s with
  | nil => exact h
  | cons request requests ih => exact ih (circling.grant framed schedules time request h)

theorem Circling.tick (circling : Circling P) (framed : ∀ s, P s → P (s.loopFrame react))
    (schedules : Schedules react P) (time : Float) (h : P s) : P (s.tick react time).2 :=
  circling.foldl_grant framed schedules time s.page.queue (circling.take s h)

/-! ## Calls -/

/-- All that a call can come to: it runs the loop, logs, gives an input to the scene, works with the
renderer, or only reads. -/
theorem callMap_keeps (c : Call) (logged : ∀ entry, P (s.log react entry))
    (inputs : ∀ i : Scene.Input, i.called = true → P (s.input react i))
    (resized : P (s.resize react)) (rendered : P (s.renderOnce react))
    (ticks : ∀ time, c = .tick time → P (s.tick react time).2)
    (starts : c = .start → P (s.start react)) (stops : c = .stop → P (s.stop react)) (h : P s) :
    P (s.callMap react c).2 := by
  cases c with
  | tick time => exact ticks time rfl
  | position p => exact inputs (.position p) rfl
  | originReset => exact inputs .originReset rfl
  | scale value => exact inputs (.scale value) rfl
  | connection connected => exact inputs (.connection connected) rfl
  | event name payload =>
      simp only [Session.callMap, Session.event]
      cases Event.decode name payload with
      | error refusal => exact logged _
      | ok event => exact inputs (.event event) rfl
  | start => exact starts rfl
  | stop => exact stops rfl
  | resize => exact resized
  | renderOnce => exact rendered
  | isRunning | scaleLabel | positionLabels | trailLength | isConnected | fixStatus | satellites =>
      exact h

theorem Lendable.callMap (lendable : Lendable P) (keeps : Keeps react P) (c : Call)
    (ticks : ∀ time, c = .tick time → P (s.tick react time).2)
    (starts : c = .start → P (s.start react)) (stops : c = .stop → P (s.stop react)) (h : P s) :
    P (s.callMap react c).2 :=
  callMap_keeps c (fun entry => lendable.log keeps entry h)
    (fun i _ => lendable.input keeps i h) (lendable.resize keeps h) (lendable.renderOnce keeps h)
    ticks starts stops h

theorem call_eq (react : Reaction) (c : Call) (s : Session) :
    s.call react c = s.callMap react c ∨ s.call react c = (.noMap, s) := by
  unfold Session.call
  split
  · exact .inl rfl
  · split
    · exact .inl rfl
    · exact .inr rfl

theorem call_of_hasMap (react : Reaction) (live : s.hasMap = true) (c : Call) :
    s.call react c = s.callMap react c := by
  cases c <;> simp [Session.call, live]

theorem call_of_callMap {c : Call} (called : P (s.callMap react c).2) (h : P s) :
    P (s.call react c).2 := by
  rcases call_eq react c s with same | refused
  · rw [same]
    exact called
  · rw [refused]
    exact h

theorem Enduring.call (enduring : Enduring P) (keeps : Keeps react P)
    (schedules : Schedules react P) (c : Call) (h : P s) : P (s.call react c).2 := by
  refine call_of_callMap (enduring.callMap keeps c ?_ ?_ ?_ h) h
  · exact fun time _ => enduring.tick (fun _ => enduring.loopFrame keeps) schedules time h
  · exact fun _ => enduring.start keeps schedules h
  · exact fun _ => enduring.stop keeps h

theorem Enduring.call_of_ne_start (enduring : Enduring P) (keeps : Keeps react P) {c : Call}
    (other : c ≠ .start) (ticks : ∀ time, P (s.tick react time).2) (h : P s) :
    P (s.call react c).2 :=
  call_of_callMap (enduring.callMap keeps c (fun time _ => ticks time)
    (fun start => absurd start other) (fun _ => enduring.stop keeps h) h) h

theorem callEach_keeps (answer : ∀ s hookReplies, P s → P { s with hookReplies })
    {calls : List Call} (called : ∀ c ∈ calls, ∀ s, P s → P (s.call react c).2) (h : P s) :
    P (s.callEach react calls) := by
  induction calls generalizing s with
  | nil => exact h
  | cons c calls ih =>
      exact ih (fun c member => called c (List.mem_cons_of_mem _ member))
        (answer _ _ (called c List.mem_cons_self s h))

theorem callBack_cons (c : Call) (calls : List Call) (s : Session) :
    s.callBack (c :: calls) =
      ({ (s.call quiet c).2 with
        hookReplies := (s.call quiet c).2.hookReplies.push (s.call quiet c).1 } : Session).callBack
          calls := rfl

theorem callBack_keeps (answer : ∀ s hookReplies, P s → P { s with hookReplies })
    {calls : List Call} (called : ∀ c ∈ calls, ∀ s, P s → P (s.call quiet c).2) (h : P s) :
    P (s.callBack calls) :=
  callEach_keeps answer called h

theorem hooked_keeps
    (back : ∀ s hook, s.hook? = some hook → P s →
      P ({ s with hook? := none }.callBack hook.calls)) :
    Keeps hooked P := by
  intro signal s h
  unfold hooked
  split
  · exact h
  · rename_i hook set
    split
    · exact back s hook set h
    · exact h

/-- A hook keeps what its calls keep. -/
theorem Enduring.hooked_keeps (enduring : Enduring P) (schedules : Schedules quiet P) :
    Keeps hooked P :=
  Session.hooked_keeps fun s _ _ h => callBack_keeps enduring.answer
    (fun c _ _ h => enduring.call (quiet_keeps P) schedules c h) (enduring.unhook s h)

/-! ## Steps -/

theorem Lasting.load (lasting : Lasting P) (keeps : Keeps react P) (h : P s) :
    P (s.load react) := by
  unfold Session.load
  split
  · exact h
  · exact lasting.log keeps _ (lasting.logging s h)

theorem Lasting.release (lasting : Lasting P) (keeps : Keeps react P) (h : P s) :
    P (s.release react) :=
  lasting.retire _ (lasting.stop keeps (lasting.leave s h))

theorem Lasting.mount (lasting : Lasting P) (keeps : Keeps react P) (canvas : String)
    (settings : Settings) (h : P s) : P (s.mount react canvas settings) := by
  obtain ⟨ready, r, kept, _, _, mounted⟩ := lasting.mount_eq keeps canvas settings h
  rw [mounted]
  exact lasting.install ready _ _ kept

theorem Lasting.create (lasting : Lasting P) (keeps : Keeps react P) (canvas settings : String)
    (h : P s) : P (s.create react canvas settings).2 := by
  unfold Session.create
  split
  · exact h
  · rename_i accepted _
    split
    · exact h
    · exact lasting.mount keeps canvas accepted h

theorem Lasting.act (lasting : Lasting P) (keeps : Keeps react P) (action : Action)
    (called : ∀ c, action = .call c → P (s.call react c).2) (h : P s) :
    P (s.act react action).2 := by
  cases action with
  | change c => exact lasting.change s c h
  | load => exact lasting.load keeps h
  | create canvas settings =>
      exact lasting.create keeps canvas settings (lasting.release keeps h)
  | release => exact lasting.release keeps h
  | call c => exact called c rfl

theorem Lasting.step (lasting : Lasting P) (arm : ∀ s st, P s → P (s.armed st))
    (schedules : ∀ react, Keeps react P → Schedules react P) (st : Step) (h : P s) :
    P (s.step st).2 := by
  have keeps : Keeps hooked P := lasting.hooked_keeps (schedules quiet (quiet_keeps P))
  have armed := arm s st h
  exact lasting.act keeps st.action
    (fun c _ => lasting.call keeps (schedules hooked keeps) c armed) armed

theorem run_keeps (stepped : ∀ s st, P s → P (s.step st).2) (steps : List Step) (h : P s) :
    P (s.run steps) := by
  induction steps generalizing s with
  | nil => exact h
  | cons st steps ih => exact ih (stepped s st h)

end Session

end PositionMap
