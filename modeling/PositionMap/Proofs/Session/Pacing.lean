import PositionMap.Proofs.Session.Comparison
import PositionMap.Proofs.Session.Running

/-! # The frames that the pacer admits

A loop keeps one pacer over its whole life. That it draws exactly the frames which a fresh pacer
admits, fed with the ticks since the loop was last set going, is an invariant: of a running loop the
pacer is that one, and of any map at least the interval is the one of its settings.
-/

namespace PositionMap

namespace Pacer

theorem interval_offer (pacer : Pacer) (now : Float) :
    (pacer.offer now).interval = pacer.interval := by
  unfold offer
  split <;> rfl

theorem interval_offers (pacer : Pacer) (times : List Float) :
    (times.foldl offer pacer).interval = pacer.interval := by
  induction times generalizing pacer with
  | nil => rfl
  | cons now times ih => exact (ih (pacer.offer now)).trans (pacer.interval_offer now)

/-- Only the interval outlasts a reset. -/
theorem reset_eq_ofRate {pacer : Pacer} {rate? : Option UInt32}
    (interval : pacer.interval = (ofRate rate?).interval) : pacer.reset = ofRate rate? := by
  cases rate? <;> cases pacer <;> cases interval <;> rfl

theorem admits_ofRate (rate? : Option UInt32) (now : Float) : (ofRate rate?).admits now = true := by
  cases rate? <;> rfl

end Pacer

/-- What the frames of a map are paced by: the highest rate of its settings, and the times of the
ticks since its loop was last set going. -/
structure Pacing where
  rate? : Option UInt32
  ticks : List Float

namespace Pacing

/-- A fresh pacer that was offered all of these ticks. -/
def pacer (p : Pacing) : Pacer :=
  p.ticks.foldl Pacer.offer (.ofRate p.rate?)

/-- What becomes of it in a step of the session. A start counts if the loop is not running. -/
def next (p : Pacing) (s : Session) (st : Step) : Pacing :=
  match st.action with
  | .create _ text =>
    match Settings.parse text with
    | .ok settings => ⟨settings.maxRate, []⟩
    | .error _ => p
  | .call .start => if s.isRunning then p else { p with ticks := [] }
  | .call (.tick time) => { p with ticks := p.ticks ++ [time] }
  | _ => p

theorem interval_pacer (p : Pacing) : p.pacer.interval = (Pacer.ofRate p.rate?).interval :=
  Pacer.interval_offers _ p.ticks

theorem pacer_tick (p : Pacing) (time : Float) :
    ({ p with ticks := p.ticks ++ [time] } : Pacing).pacer = p.pacer.offer time :=
  List.foldl_append

end Pacing

namespace Session

def pacing (s : Session) (p : Pacing) : List Step → Pacing
  | [] => p
  | st :: steps => (s.step st).2.pacing (p.next s st) steps

/-! ## Ticks with any frames -/

theorem grantBy_of_own (draw : Renderer → Session → Renderer × Session) (react : Reaction)
    (time : Float) (s : Session) {request : Request} {w : Widget} (found : s.widget? = some w)
    (own : w.owner = request.owner) :
    s.grantBy draw react time request =
      let offered := s.onWidget fun w => { w with handle? := none, pacer := w.pacer.offer time }
      (if w.pacer.admits time then offered.loopFrameBy draw react else offered).schedule react := by
  unfold grantBy
  rw [found]
  exact if_pos own

/-- The loop comes to a frame: its request is taken, its handle let go, and its pacer offered the
frame. -/
def due (time : Float) (s : Session) : Session :=
  ({ s with page := { s.page with queue := [] } } : Session).onWidget fun w =>
    { w with handle? := none, pacer := w.pacer.offer time }

def drawnBy (draw : Renderer → Session → Renderer × Session) (r : Renderer) (s : Session) :
    Session :=
  let (r, s) := draw r (s.onWidget fun w => { w with renderer? := none })
  s.onWidget fun w => { w with renderer? := some r }

variable {s : Session} {p : Pacing} {pacer : Pacer}

/-! ## The renderer is at hand between steps -/

/-- The map, if there is one, holds its renderer and is there to be called. -/
structure Whole (s : Session) : Prop where
  calm : s.hook? = none
  holds : ∀ w, s.widget? = some w → w.renderer?.isSome = true
  stays : ∀ w, s.widget? = some w → w.leaving = false

theorem Whole.onWidget (whole : Whole s) {f : Widget → Widget}
    (same : ∀ w, (f w).renderer? = w.renderer?) (here : ∀ w, (f w).leaving = w.leaving) :
    Whole (s.onWidget f) where
  calm := whole.calm
  holds := by
    intro w found
    obtain ⟨v, there, rfl⟩ := Option.map_eq_some_iff.mp found
    rw [same]
    exact whole.holds v there
  stays := by
    intro w found
    obtain ⟨v, there, rfl⟩ := Option.map_eq_some_iff.mp found
    exact (here v).trans (whole.stays v there)

theorem whole_of_unmapped (calm : s.hook? = none) (none : s.widget? = none) : Whole s where
  calm := calm
  holds := by simp [none]
  stays := by simp [none]

/-- A step can call the map that is there. -/
theorem Whole.call_armed (whole : Whole s) {w : Widget} (found : s.widget? = some w) (st : Step)
    (c : Call) : (s.armed st).call hooked c = (s.armed st).callMap hooked c :=
  call_of_hasMap hooked (by simp [hasMap, Session.armed, found, whole.stays w found]) c

theorem whole_looping : Looping Whole where
  record _ _ _ h := ⟨h.calm, h.holds, h.stays⟩
  breakage _ _ h := ⟨h.calm, h.holds, h.stays⟩
  pace _ _ h := h.onWidget (fun _ => rfl) fun _ => rfl
  letGo _ _ h := h.onWidget (fun _ => rfl) fun _ => rfl
  cancel _ _ h := ⟨h.calm, h.holds, h.stays⟩
  take _ h := ⟨h.calm, h.holds, h.stays⟩

theorem Whole.keeps : Keeps hooked Whole :=
  hooked_keeps_of_calm fun _ h => h.calm

theorem Whole.schedules : Schedules hooked Whole :=
  whole_looping.schedules Whole.keeps (fun _ _ _ h => ⟨h.calm, h.holds, h.stays⟩)
    fun _ _ h => h.onWidget (fun _ => rfl) fun _ => rfl

/-- Whatever is done with the renderer, it is given back. -/
theorem Whole.lend (whole : Whole s) {text : String}
    {use : Renderer → Session → Renderer × Session}
    (fixed : ∀ page w r s, Fixed page w s → Fixed page w (use r s).2) :
    Whole (s.lend (warn hooked text) use) := by
  unfold Session.lend
  split
  · exact whole_looping.log Whole.keeps _ whole
  · rename_i r _
    have used := fixed s.page _ r (s.onWidget fun w => { w with renderer? := none })
      ⟨whole.calm, rfl, rfl⟩
    refine ⟨used.calm, fun w found => ?_, fun w found => ?_⟩ <;>
      obtain ⟨v, there, rfl⟩ := Option.map_eq_some_iff.mp found
    · rfl
    · obtain ⟨before, held, rfl⟩ := Option.map_eq_some_iff.mp (used.found.symm.trans there)
      exact whole.stays before held

theorem Whole.lend_frame (whole : Whole s) (text : String) :
    Whole (s.lend (warn hooked text) (frame hooked)) :=
  whole.lend fun page w r _ => (fixed_steady page w).frame Fixed.keeps r

theorem Whole.input (whole : Whole s) (i : Scene.Input) : Whole (s.input hooked i) :=
  whole.lend fun page w _ _ => (fixed_steady page w).logAll Fixed.keeps _

theorem Whole.resize (whole : Whole s) : Whole (s.resize hooked) :=
  whole.lend fun page w r _ => (fixed_steady page w).refit Fixed.keeps r

theorem Whole.callMap (whole : Whole s) (c : Call) : Whole (s.callMap hooked c).2 :=
  callMap_keeps c (fun entry => whole_looping.log Whole.keeps entry whole)
    (fun i _ => whole.input i) whole.resize (whole.lend_frame _)
    (fun time _ =>
      whole_looping.tick (fun _ h => h.lend_frame _) Whole.schedules time whole)
    (fun _ => whole_looping.start Whole.keeps Whole.schedules whole)
    (fun _ => whole_looping.stop Whole.keeps whole) whole

theorem Whole.step (whole : Whole s) (st : Step) (alone : st.hook? = none) :
    Whole (s.step st).2 := by
  have armed : Whole (s.armed st) := ⟨alone, whole.holds, whole.stays⟩
  rw [Session.step]
  cases action : st.action with
  | change c => exact ⟨armed.calm, armed.holds, armed.stays⟩
  | load =>
      simp only [act, Session.load]
      split
      · exact armed
      · exact whole_looping.log Whole.keeps _ ⟨armed.calm, armed.holds, armed.stays⟩
  | create canvas text =>
      have released := calm_lasting.release calm_keeps armed.calm
      simp only [act, create]
      split
      · exact whole_of_unmapped released rfl
      · split
        · exact whole_of_unmapped released rfl
        · obtain ⟨ready, r, calm, _, _, mounted⟩ :=
            calm_lasting.mount_eq calm_keeps canvas _ released
          rw [mounted]
          exact ⟨calm, by rintro w ⟨⟩; rfl, by rintro w ⟨⟩; rfl⟩
  | release => exact whole_of_unmapped (calm_lasting.release calm_keeps armed.calm) rfl
  | call c => exact call_of_callMap (armed.callMap c) armed

/-! ## The pacer of a running loop -/

structure PacedBy (pacer : Pacer) (s : Session) : Prop where
  calm : s.hook? = none
  pacer : ∀ w, s.widget? = some w → w.pacer = pacer

theorem PacedBy.onWidget (paced : PacedBy pacer s) {f : Widget → Widget}
    (same : ∀ w, (f w).pacer = w.pacer) : PacedBy pacer (s.onWidget f) where
  calm := paced.calm
  pacer := by
    intro w found
    obtain ⟨v, there, rfl⟩ := Option.map_eq_some_iff.mp found
    exact (same v).trans (paced.pacer v there)

theorem pacedBy_lendable (pacer : Pacer) : Lendable (PacedBy pacer) where
  record _ _ _ h := ⟨h.calm, h.pacer⟩
  breakage _ _ h := ⟨h.calm, h.pacer⟩
  lending _ _ h := h.onWidget fun _ => rfl

theorem PacedBy.keeps : Keeps hooked (PacedBy pacer) :=
  hooked_keeps_of_calm fun _ h => h.calm

theorem PacedBy.schedules : Schedules hooked (PacedBy pacer) :=
  (pacedBy_lendable pacer).schedules PacedBy.keeps (fun _ _ _ h => ⟨h.calm, h.pacer⟩)
    fun _ _ h => h.onWidget fun _ => rfl

/-- The interval of the map's pacer is that of its settings. While the loop runs, its pacer has been
offered the ticks since it was set going, and nothing else. -/
structure Paced (p : Pacing) (s : Session) : Prop where
  calm : s.hook? = none
  interval : ∀ w, s.widget? = some w → w.pacer.interval = (Pacer.ofRate p.rate?).interval
  pacer : ∀ w, s.widget? = some w → w.running = true → w.pacer = p.pacer

theorem PacedBy.paced (paced : PacedBy p.pacer s) : Paced p s where
  calm := paced.calm
  interval w found := (congrArg Pacer.interval (paced.pacer w found)).trans p.interval_pacer
  pacer w found _ := paced.pacer w found

theorem Paced.onWidget (paced : Paced p s) {f : Widget → Widget}
    (same : ∀ w, (f w).pacer = w.pacer) (stays : ∀ w, (f w).running = true → w.running = true) :
    Paced p (s.onWidget f) where
  calm := paced.calm
  interval := by
    intro w found
    obtain ⟨v, there, rfl⟩ := Option.map_eq_some_iff.mp found
    rw [same]
    exact paced.interval v there
  pacer := by
    intro w found running
    obtain ⟨v, there, rfl⟩ := Option.map_eq_some_iff.mp found
    exact (same v).trans (paced.pacer v there (stays v running))

theorem paced_lendable (p : Pacing) : Lendable (Paced p) where
  record _ _ _ h := ⟨h.calm, h.interval, h.pacer⟩
  breakage _ _ h := ⟨h.calm, h.interval, h.pacer⟩
  lending _ _ h := h.onWidget (fun _ => rfl) fun _ running => running

theorem Paced.keeps : Keeps hooked (Paced p) :=
  hooked_keeps_of_calm fun _ h => h.calm

/-- What a loop that does not run was offered makes no difference. -/
theorem Paced.forget (paced : Paced p s) (idle : s.isRunning = false) (ticks : List Float) :
    Paced { p with ticks } s where
  calm := paced.calm
  interval := paced.interval
  pacer w found running := by simp [Session.isRunning, found, running] at idle

theorem paced_of_unmapped (calm : s.hook? = none) (none : s.widget? = none) : Paced p s where
  calm := calm
  interval := by simp [none]
  pacer := by simp [none]

theorem Paced.start (paced : Paced p s) (idle : s.isRunning = false) :
    Paced { p with ticks := [] } (s.start hooked) := by
  cases found : s.widget? with
  | none => simpa [Session.start, found] using paced_of_unmapped paced.calm found
  | some w =>
      have stopped : w.running = false := by simpa [Session.isRunning, found] using idle
      have told := (paced_lendable p).log Paced.keeps ⟨.info, "animation started"⟩ paced
      have reset : PacedBy ({ p with ticks := [] } : Pacing).pacer
          ((s.info hooked "animation started").onWidget fun w =>
            { w with pacer := w.pacer.reset }) := by
        refine ⟨told.calm, fun v there => ?_⟩
        obtain ⟨before, held, rfl⟩ := Option.map_eq_some_iff.mp there
        exact Pacer.reset_eq_ofRate (told.interval before held)
      simpa [Session.start, found, stopped] using (PacedBy.schedules _ reset).paced

theorem Paced.stop (paced : Paced p s) : Paced p (s.stop hooked) := by
  unfold Session.stop
  split
  · exact paced
  · rename_i id _
    have released : Paced p (s.onWidget fun w => { w with handle? := none }) :=
      paced.onWidget (fun _ => rfl) (by simp [Widget.running])
    refine (paced_lendable p).log Paced.keeps _ ?_
    split
    · have told := Paced.keeps (Effect.cancelled id).name _
        ((paced_lendable p).cancelled _ id released)
      unfold cancelRequest
      dsimp only
      split
      · exact (paced_lendable p).log Paced.keeps _ told
      · exact ⟨told.calm, told.interval, told.pacer⟩
    · exact released

/-! ## Ticks -/

/-- A tick of a running loop draws at most one frame, and it is up to the pacer whether it does. -/
theorem Tight.tickBy (tight : Tight s) (whole : Whole s) (running : s.isRunning = true) :
    ∃ w r, s.widget? = some w ∧ w.renderer? = some r ∧ ∀ draw react time,
      s.tickBy draw react time =
        (1, (if w.pacer.admits time then (s.due time).drawnBy draw r else s.due time).schedule
          react) := by
  obtain ⟨w, id, found, handle⟩ := isRunning_iff.mp running
  obtain ⟨r, held⟩ := Option.isSome_iff_exists.mp (whole.holds w found)
  have queue : s.page.queue = [⟨id, w.owner⟩] := by
    rw [tight.queue, expected, found]
    simp [handle]
  refine ⟨w, r, found, held, fun draw react time => ?_⟩
  have free : (s.due time).renderer? = some r := by simp [renderer?, due, found, held]
  have lent : (s.due time).loopFrameBy draw react = (s.due time).drawnBy draw r := by
    unfold loopFrameBy Session.lend drawnBy
    rw [free]
  unfold Session.tickBy
  rw [queue, ← lent]
  exact congrArg (1, ·) (grantBy_of_own draw react time
    { s with page := { s.page with queue := [] } } found rfl)

theorem Paced.due (paced : Paced p s) (running : s.isRunning = true) (time : Float) :
    PacedBy (p.pacer.offer time) (s.due time) := by
  refine ⟨paced.calm, fun w found => ?_⟩
  obtain ⟨v, there, rfl⟩ := Option.map_eq_some_iff.mp found
  have loop : v.running = true := by simpa [Session.isRunning, show s.widget? = some v from there]
    using running
  exact congrArg (fun pacer => pacer.offer time) (paced.pacer v there loop)

theorem Paced.tick (paced : Paced p s) (tight : Tight s) (whole : Whole s) (time : Float) :
    Paced { p with ticks := p.ticks ++ [time] } (s.tick hooked time).2 := by
  cases running : s.isRunning with
  | false =>
      rw [Session.tick, (tight.loose running).tickBy]
      exact paced.forget running _
  | true =>
      obtain ⟨w, r, _, _, ticked⟩ := tight.tickBy whole running
      have due := paced.due running time
      rw [← p.pacer_tick time] at due
      rw [Session.tick, ticked]
      refine (PacedBy.schedules _ ?_).paced
      split
      · have lendable := pacedBy_lendable ({ p with ticks := p.ticks ++ [time] } : Pacing).pacer
        exact lendable.lending _ _ (lendable.frame PacedBy.keeps r (lendable.lending _ _ due))
      · exact due

/-! ## Steps -/

theorem Paced.call (paced : Paced p s) (tight : Tight s) (whole : Whole s) (c : Call) (st : Step)
    (called : st.action = .call c) : Paced (p.next s st) (s.call hooked c).2 := by
  by_cases start : c = .start
  · subst start
    cases running : s.isRunning with
    | true =>
        have same : (s.call hooked .start).2 = s := by
          refine call_of_callMap (P := fun later => later = s) ?_ rfl
          obtain ⟨w, id, found, handle⟩ := isRunning_iff.mp running
          simp [Session.callMap, Session.start, found, Widget.running, handle]
        simpa [Pacing.next, called, running, same] using paced
    | false =>
        simp only [Pacing.next, called, running]
        exact call_of_callMap (paced.start running) (paced.forget running [])
  · by_cases timely : ∃ time, c = .tick time
    · obtain ⟨time, rfl⟩ := timely
      simp only [Pacing.next, called]
      exact paced.tick tight whole time
    · have same : p.next s st = p := by
        cases c <;> simp_all [Pacing.next]
      rw [same]
      refine call_of_callMap ((paced_lendable p).callMap Paced.keeps c ?_ ?_ ?_ paced) paced
      · exact fun time ticks => absurd ⟨time, ticks⟩ timely
      · exact fun starts => absurd starts start
      · exact fun _ => paced.stop

theorem Paced.step (paced : Paced p s) (tight : Tight s) (whole : Whole s) (st : Step)
    (alone : st.hook? = none) : Paced (p.next s st) (s.step st).2 := by
  have armed : Paced p (s.armed st) := ⟨alone, paced.interval, paced.pacer⟩
  rw [Session.step]
  cases action : st.action with
  | change c =>
      simp only [Pacing.next, action]
      exact ⟨armed.calm, armed.interval, armed.pacer⟩
  | load =>
      simp only [Pacing.next, action, act, Session.load]
      split
      · exact armed
      · exact (paced_lendable p).log Paced.keeps _ ⟨armed.calm, armed.interval, armed.pacer⟩
  | create canvas text =>
      have released := calm_lasting.release calm_keeps armed.calm
      cases parsed : Settings.parse text with
      | error refusal =>
          simp only [act, create, parsed]
          exact paced_of_unmapped released rfl
      | ok settings =>
          cases problem : ((s.armed st).release hooked).page.canvasProblem? canvas with
          | some problem =>
              simp only [act, create, parsed, problem]
              exact paced_of_unmapped released rfl
          | none =>
              obtain ⟨ready, r, calm, _, _, mounted⟩ :=
                calm_lasting.mount_eq calm_keeps canvas settings released
              simp only [Pacing.next, action, act, create, parsed, problem, mounted]
              refine PacedBy.paced ⟨calm, ?_⟩
              rintro w ⟨⟩
              rfl
  | release =>
      exact paced_of_unmapped (calm_lasting.release calm_keeps armed.calm) rfl
  | call c =>
      exact armed.call ⟨alone, tight.queue⟩ ⟨alone, whole.holds, whole.stays⟩ c st action

/-- What holds between the steps of a session in which the page does not call back and every stop
can take its request back. -/
theorem paced_run (tight : Tight s) (whole : Whole s) (paced : Paced p s) (steps : List Step)
    (clean : CleanRun s steps) :
    Tight (s.run steps) ∧ Whole (s.run steps) ∧ Paced (s.pacing p steps) (s.run steps) := by
  induction steps generalizing s p with
  | nil => exact ⟨tight, whole, paced⟩
  | cons st steps ih =>
      obtain ⟨alone, stops, rest⟩ := clean
      exact ih (tight.step st alone stops) (whole.step st alone)
        (paced.step tight whole st alone) rest

theorem pacing_append (s : Session) (p : Pacing) (steps more : List Step) :
    s.pacing p (steps ++ more) = (s.run steps).pacing (s.pacing p steps) more := by
  induction steps generalizing s p with
  | nil => rfl
  | cons st steps ih => exact ih _ _

/-! ## Frames out of turn -/

def repaced (pacer : Pacer) (s : Session) : Session :=
  s.onWidget fun w => { w with pacer }

theorem repaced_paired (pacer : Pacer) :
    PairedFrames (fun s t => s.hook? = none ∧ t = s.repaced pacer) hooked hooked where
  record := by
    rintro s _ effect ⟨calm, rfl⟩
    exact ⟨calm, rfl⟩
  answer := by
    rintro signal s _ ⟨calm, rfl⟩
    have other : (s.repaced pacer).hook? = none := calm
    rw [hooked_of_calm calm, hooked_of_calm other]
    exact ⟨calm, rfl⟩
  logging := by
    rintro s _ ⟨_, rfl⟩
    rfl
  measured := by
    rintro s _ canvas ⟨_, rfl⟩
    rfl
  breakage := by
    rintro s _ ⟨_, rfl⟩
    rfl
  breaking := by
    rintro s _ breakage? ⟨calm, rfl⟩
    exact ⟨calm, rfl⟩

theorem lend_repaced (calm : s.hook? = none) {text : String}
    {use : Renderer → Session → Renderer × Session}
    (used : ∀ r s, s.hook? = none → use r (s.repaced pacer) =
      ((use r s).1, (use r s).2.repaced pacer)) :
    (s.repaced pacer).lend (warn hooked text) use =
      (s.lend (warn hooked text) use).repaced pacer := by
  have same : (s.repaced pacer).renderer? = s.renderer? := by
    cases found : s.widget? <;> simp [repaced, renderer?, found]
  unfold Session.lend
  rw [same]
  split
  · exact ((repaced_paired pacer).log _ ⟨calm, rfl⟩).2
  · rename_i r _
    have lent := used r (s.onWidget fun w => { w with renderer? := none }) calm
    have commutes : (s.repaced pacer).onWidget (fun w => { w with renderer? := none }) =
        (s.onWidget fun w => { w with renderer? := none }).repaced pacer := by
      simp [repaced, onWidget, Function.comp_def]
    rw [commutes, lent]
    simp [repaced, onWidget, Function.comp_def]

theorem renderOnce_repaced (calm : s.hook? = none) :
    (s.repaced pacer).renderOnce hooked = (s.renderOnce hooked).repaced pacer := by
  refine lend_repaced calm fun r s calm => ?_
  obtain ⟨same, _, after⟩ := (repaced_paired pacer).frame r ⟨calm, rfl⟩
  exact Prod.ext same.symm after

theorem resize_repaced (calm : s.hook? = none) :
    (s.repaced pacer).resize hooked = (s.resize hooked).repaced pacer := by
  refine lend_repaced calm fun r s calm => ?_
  obtain ⟨fitted, scene, a, b, left, right, later, after⟩ :=
    (repaced_paired pacer).fitCanvas r r.draws ⟨calm, rfl⟩
  unfold refit
  rw [left, right, after]
  cases fitted with
  | true => rfl
  | false => exact congrArg (Prod.mk _) ((repaced_paired pacer).log _ ⟨later, rfl⟩).2

/-- Work that the loop does not do takes no notice of the pacer. -/
theorem step_repaced {st : Step} (alone : st.hook? = none)
    (work : st.action = .call .resize ∨ st.action = .call .renderOnce) :
    (s.repaced pacer).step st = ((s.step st).1, (s.step st).2.repaced pacer) := by
  have armed : (s.repaced pacer).armed st = (s.armed st).repaced pacer := rfl
  have calm : (s.armed st).hook? = none := alone
  have same : ((s.armed st).repaced pacer).hasMap = (s.armed st).hasMap := by
    cases found : s.widget? <;> simp [hasMap, repaced, Session.armed, found]
  unfold Session.step
  rw [armed]
  rcases work with resized | rendered
  · rw [resized]
    simp only [act, Session.call, same, Session.callMap, resize_repaced calm]
    split <;> rfl
  · rw [rendered]
    simp only [act, Session.call, same, Session.callMap, renderOnce_repaced calm]
    split <;> rfl

/-! ## Sessions -/

/-- A stopped loop that is started again paces as if nothing had been drawn. -/
theorem pacer_restarted (tight : Tight s) (whole : Whole s) (p : Pacing) {stop start : Step}
    (alone : stop.hook? = none) (stops : stop.action = .call .stop)
    (starts : start.action = .call .start) (clean : s.StopsCleanly stop) :
    (s.pacing p [stop, start]).pacer = .ofRate p.rate? := by
  have armed : Tight (s.armed stop) := ⟨alone, tight.queue⟩
  have stopped : (s.step stop).2.isRunning = false := by
    unfold Session.step
    rw [stops]
    cases found : s.widget? with
    | none => simp [act, Session.call, hasMap, Session.isRunning, Session.armed, found]
    | some w =>
        rw [act, whole.call_armed found]
        exact (armed.stop (clean (by rw [stops]; rfl))).isRunning
  simp [pacing, Pacing.next, stops, starts, stopped, Pacing.pacer]

/-- In a session in which the page does not call back and every stop can take its request back, the
loop draws exactly the frames that a fresh pacer admits which was offered the ticks since the loop
was last set going: a tick draws no frame while the loop does not run, and at most one while it
runs. A start of a running loop does nothing, after a stop and a start the next frame is drawn
whenever it comes, and frames and measurements that the loop did not ask for take no notice of the
pacer. -/
theorem frames_of_pacer (c : Page.Change) (steps : List Step) (clean : CleanRun (opened c) steps) :
    let s := (opened c).run steps
    let p := (opened c).pacing ⟨none, []⟩ steps
    (∀ time breakage? draw,
      let tick : Step := ⟨.call (.tick time), breakage?, none⟩
      let ready := s.armed tick
      s.step tick = (.count (ready.tickBy (frame hooked) hooked time).1,
        (ready.tickBy (frame hooked) hooked time).2) ∧
      (s.isRunning = false → ready.tickBy draw hooked time = (0, ready)) ∧
      (s.isRunning = true → ∃ r, s.renderer? = some r ∧
        ready.tickBy draw hooked time =
          (1, (if p.pacer.admits time then (ready.due time).drawnBy draw r
            else ready.due time).schedule hooked))) ∧
    (∀ start : Step, start.action = .call .start → s.isRunning = true →
      s.step start = (.done, s.armed start)) ∧
    (∀ stop start : Step, stop.action = .call .stop → start.action = .call .start →
      stop.hook? = none → s.StopsCleanly stop → ∀ time,
        ((opened c).pacing ⟨none, []⟩ (steps ++ [stop, start])).pacer.admits time = true) ∧
    ∀ st : Step, st.hook? = none →
      st.action = .call .resize ∨ st.action = .call .renderOnce → ∀ pacer,
        (s.repaced pacer).step st = ((s.step st).1, (s.step st).2.repaced pacer) := by
  intro s p
  obtain ⟨tight, whole, paced⟩ := paced_run (p := ⟨none, []⟩) (tight_opened c)
    (whole_of_unmapped rfl rfl) (paced_of_unmapped rfl rfl) steps clean
  refine ⟨fun time breakage? draw => ?_, ?_, ?_, ?_⟩
  · -- the step only arms the session, which changes neither the map nor what is waiting
    let tick : Step := ⟨.call (.tick time), breakage?, none⟩
    have armed : Tight (s.armed tick) := ⟨rfl, tight.queue⟩
    refine ⟨rfl, fun idle => (armed.loose idle).tickBy draw hooked time, fun running => ?_⟩
    obtain ⟨w, r, found, held, ticked⟩ :=
      armed.tickBy ⟨rfl, whole.holds, whole.stays⟩ running
    have loop : w.running = true := by
      simpa [Session.isRunning, show s.widget? = some w from found] using running
    refine ⟨r, Option.bind_eq_some_iff.mpr ⟨w, found, held⟩, ?_⟩
    rw [ticked, paced.pacer w found loop]
  · intro start starts running
    obtain ⟨w, id, found, handle⟩ := isRunning_iff.mp running
    have ignored : (s.armed start).start hooked = s.armed start := by
      simp [Session.start, Session.armed, found, Widget.running, handle]
    unfold Session.step
    rw [starts, act, whole.call_armed found, Session.callMap, ignored]
  · intro stop start stops starts alone clean time
    rw [pacing_append, pacer_restarted tight whole p alone stops starts clean]
    exact Pacer.admits_ofRate _ time
  · exact fun st alone work pacer => step_repaced alone work

/-- With at most twenty frames a second, the tick at 40 ms comes too soon after the one at 16 ms. -/
theorem frames_of_limited :
    let steps : List Step := [⟨.create "map" "\x7b\"max_fps\": 20\x7d", none, none⟩,
      ⟨.call .start, none, none⟩, ⟨.call (.tick 16), none, none⟩, ⟨.call .start, none, none⟩]
    CleanRun (opened framed) steps ∧ ((opened framed).run steps).isRunning = true ∧
      ((opened framed).pacing ⟨none, []⟩ steps).pacer.admits 40 = false ∧
      ((opened framed).run steps).step ⟨.call (.tick 40), none, none⟩ =
        (.count 1, ((((opened framed).run steps).armed ⟨.call (.tick 40), none, none⟩).due
          40).schedule hooked) := by
  intro steps
  have clean : CleanRun (opened framed) steps := by decide +kernel
  have running : ((opened framed).run steps).isRunning = true := by decide +kernel
  have soon : ((opened framed).pacing ⟨none, []⟩ steps).pacer.admits 40 = false := by
    decide +kernel
  obtain ⟨ticks, -⟩ := frames_of_pacer framed steps clean
  obtain ⟨stepped, -, ticked⟩ := ticks 40 none (frame hooked)
  obtain ⟨r, -, drawn⟩ := ticked running
  refine ⟨clean, running, soon, ?_⟩
  rw [stepped, drawn, soon]
  rfl

end Session

end PositionMap
