import PositionMap.Proofs.Session.Reach

/-! # One request exactly while the loop runs

The loop has no flag that says that it runs: it runs while the map holds the handle of a frame
request. As long as every stop can take its request back, the page has that request waiting and no
other one. A tick takes it from the page and makes the next one, whatever becomes of the frame.
-/

namespace PositionMap

def Action.stops : Action → Bool
  | create .. | release | call .stop => true
  | change _ | load | call _ => false

namespace Session

def handle? (s : Session) : Option Nat :=
  s.widget?.bind Widget.handle?

/-- If the step stops a map that holds a handle, the page lets it take the request back. -/
def StopsCleanly (s : Session) (st : Step) : Prop :=
  st.action.stops = true → s.handle? ≠ none →
    s.page.window = true ∧ s.page.cancelError? = none

instance (s : Session) (st : Step) : Decidable (s.StopsCleanly st) :=
  inferInstanceAs (Decidable (_ → _ → _))

/-- Steps in which the page does not call back, and in which every stop can take its request
back. -/
def CleanRun : Session → List Step → Prop
  | _, [] => True
  | s, st :: steps => st.hook? = none ∧ s.StopsCleanly st ∧ CleanRun (s.step st).2 steps

instance decidableCleanRun : (s : Session) → (steps : List Step) → Decidable (CleanRun s steps)
  | _, [] => .isTrue trivial
  | s, st :: steps =>
    have := decidableCleanRun (s.step st).2 steps
    inferInstanceAs (Decidable (_ ∧ _ ∧ _))

/-- The requests that should be waiting: the one whose handle the map holds. -/
def expected (s : Session) : List Request :=
  match s.widget? with
  | none => []
  | some w => w.handle?.toList.map fun id => ⟨id, w.owner⟩

/-- The page has exactly the expected requests waiting, and does not call back. -/
structure Tight (s : Session) : Prop where
  calm : s.hook? = none
  queue : s.page.queue = s.expected

structure Loose (s : Session) : Prop where
  calm : s.hook? = none
  queue : s.page.queue = []
  handle : ∀ w, s.widget? = some w → w.handle? = none

variable {s : Session}

theorem Loose.tight (loose : Loose s) : Tight s where
  calm := loose.calm
  queue := by
    rw [loose.queue, expected]
    cases found : s.widget? with
    | none => rfl
    | some w => simp [loose.handle w found]

theorem tight_lendable : Lendable Tight where
  record _ _ _ h := ⟨h.calm, h.queue⟩
  breakage _ _ h := ⟨h.calm, h.queue⟩
  lending s renderer? h := by
    refine ⟨h.calm, ?_⟩
    have queue := h.queue
    unfold expected at queue ⊢
    cases found : s.widget? <;> simpa [onWidget, found] using queue

theorem Loose.onWidget (loose : Loose s) {f : Widget → Widget}
    (same : ∀ w, w.handle? = none → (f w).handle? = none) : Loose (s.onWidget f) where
  calm := loose.calm
  queue := loose.queue
  handle := by
    intro w found
    obtain ⟨v, there, rfl⟩ := Option.map_eq_some_iff.mp found
    exact same v (loose.handle v there)

theorem loose_lendable : Lendable Loose where
  record _ _ _ h := ⟨h.calm, h.queue, h.handle⟩
  breakage _ _ h := ⟨h.calm, h.queue, h.handle⟩
  lending _ _ h := h.onWidget fun _ none => none

theorem Tight.keeps : Keeps hooked Tight :=
  hooked_keeps_of_calm fun _ h => h.calm

theorem Loose.keeps : Keeps hooked Loose :=
  hooked_keeps_of_calm fun _ h => h.calm

/-! ## Requests -/

theorem Loose.schedule_granted (loose : Loose s) {w : Widget} (found : s.widget? = some w)
    (granting : s.grants) :
    Tight (s.schedule hooked) ∧ (s.schedule hooked).isRunning = true := by
  have told := emit_of_calm (s := { s with page := s.page.request w.owner }) loose.calm
    (.requested s.page.nextId)
  rw [Session.schedule_granted hooked found granting, told]
  refine ⟨⟨loose.calm, ?_⟩, ?_⟩
  · simp [expected, Page.request, loose.queue, found]
  · simp [Session.isRunning, Widget.running, found]

theorem Loose.schedule_denied (loose : Loose s) (denied : ¬ s.grants) :
    Loose (s.schedule hooked) :=
  loose_lendable.schedule_denied Loose.keeps denied loose

theorem Loose.schedule (loose : Loose s) : Tight (s.schedule hooked) := by
  by_cases granting : s.grants
  · cases found : s.widget? with
    | none => simpa [Session.schedule, found] using loose.tight
    | some w => exact (loose.schedule_granted found granting).1
  · exact (loose.schedule_denied granting).tight

theorem Loose.isRunning (loose : Loose s) : s.isRunning = false :=
  isRunning_eq_false_iff.mpr loose.handle

theorem Tight.loose (tight : Tight s) (idle : s.isRunning = false) : Loose s := by
  have handle := isRunning_eq_false_iff.mp idle
  refine ⟨tight.calm, ?_, handle⟩
  rw [tight.queue, expected]
  split
  · rfl
  · rename_i w found
    simp [handle w found]

/-! ## Starting, stopping and ticking -/

theorem Tight.start (tight : Tight s) : Tight (s.start hooked) := by
  unfold Session.start
  split
  · exact tight
  · rename_i w found
    split
    · exact tight
    · rename_i stopped
      have loose : Loose s := tight.loose (by simpa [Session.isRunning, found] using stopped)
      have told := loose_lendable.log Loose.keeps ⟨.info, "animation started"⟩ loose
      exact (told.onWidget (f := fun w => { w with pacer := w.pacer.reset })
        fun _ none => none).schedule

theorem Loose.stop (loose : Loose s) (react : Reaction) : s.stop react = s := by
  have none : s.widget?.bind Widget.handle? = none := by
    cases found : s.widget? with
    | none => rfl
    | some w => exact loose.handle w found
  simp [Session.stop, none]

theorem Tight.stop (tight : Tight s)
    (clean : s.handle? ≠ none → s.page.window = true ∧ s.page.cancelError? = none) :
    Loose (s.stop hooked) := by
  cases held : s.handle? with
  | none =>
      have loose : Loose s := by
        refine tight.loose ?_
        cases found : s.widget? <;> simp_all [handle?, Session.isRunning, Widget.running]
      rw [loose.stop]
      exact loose
  | some id =>
      obtain ⟨window, cancelled⟩ := clean (by simp [held])
      obtain ⟨w, found, handle⟩ := Option.bind_eq_some_iff.mp held
      have queue : s.page.queue = [⟨id, w.owner⟩] := by
        rw [tight.queue, expected, found]
        simp [handle]
      have told := emit_of_calm
        (s := s.onWidget fun w => { w with handle? := none }) tight.calm (.cancelled id)
      have stopped : s.stop hooked = ({ (s.onWidget fun w => { w with handle? := none }).record
          (.cancelled id) with page := s.page.cancel id } : Session).info hooked
            "animation stopped" := by
        unfold Session.stop
        simp [show s.widget?.bind Widget.handle? = some id from held, window, cancelRequest, told,
          cancelled]
      rw [stopped]
      refine loose_lendable.log Loose.keeps _ ⟨tight.calm, ?_, ?_⟩
      · simp [Page.cancel, queue]
      · intro v there
        simp [found] at there
        simp [← there]

/-- The map has a loop that is waiting for nothing, on a page with the given settings. -/
structure Waiting (window : Bool) (requestError? : Option String) (s : Session) : Prop where
  loose : Loose s
  attached : s.widget?.isSome = true
  window : s.page.window = window
  refusal : s.page.requestError? = requestError?

theorem waiting_lendable (window : Bool) (requestError? : Option String) :
    Lendable (Waiting window requestError?) where
  record s e free h := ⟨loose_lendable.record s e free h.loose, h.attached, h.window, h.refusal⟩
  breakage s b h := ⟨loose_lendable.breakage s b h.loose, h.attached, h.window, h.refusal⟩
  lending s r h :=
    ⟨loose_lendable.lending s r h.loose, by simpa using h.attached, h.window, h.refusal⟩

theorem Waiting.keeps (window : Bool) (requestError? : Option String) :
    Keeps hooked (Waiting window requestError?) :=
  hooked_keeps_of_calm fun _ h => h.loose.calm

theorem Loose.tickBy (loose : Loose s) (draw : Renderer → Session → Renderer × Session)
    (react : Reaction) (time : Float) : s.tickBy draw react time = (0, s) := by
  have taken : { s.page with queue := [] } = s.page := by rw [← loose.queue]
  simp [Session.tickBy, loose.queue, taken]

theorem Tight.tick_running (tight : Tight s) (running : s.isRunning = true) (time : Float) :
    ∃ later, Waiting s.page.window s.page.requestError? later ∧
      (s.tick hooked time).2 = later.schedule hooked := by
  obtain ⟨w, id, found, handle⟩ := isRunning_iff.mp running
  have queue : s.page.queue = [⟨id, w.owner⟩] := by
    rw [tight.queue, expected, found]
    simp [handle]
  let taken : Session := { s with page := { s.page with queue := [] } }
  have waiting : Waiting s.page.window s.page.requestError?
      (taken.onWidget fun w => { w with handle? := none, pacer := w.pacer.offer time }) :=
    ⟨⟨tight.calm, rfl, by simp [taken, found]⟩, by simp [taken, found], rfl, rfl⟩
  rw [Session.tick, Session.tickBy, queue]
  exact (waiting_lendable _ _).grant_eq (Waiting.keeps _ _) time (s := taken) found rfl waiting

theorem Tight.tick (tight : Tight s) (time : Float) : Tight (s.tick hooked time).2 := by
  cases running : s.isRunning with
  | true =>
      obtain ⟨later, waiting, ticked⟩ := tight.tick_running running time
      rw [ticked]
      exact waiting.loose.schedule
  | false =>
      rw [Session.tick, (tight.loose running).tickBy]
      exact tight

/-- A tick of a running loop keeps it running exactly when the page grants the next request. -/
theorem Tight.isRunning_tick (tight : Tight s) (running : s.isRunning = true) (time : Float) :
    (s.tick hooked time).2.isRunning = true ↔ s.grants := by
  obtain ⟨later, waiting, ticked⟩ := tight.tick_running running time
  have same : later.grants ↔ s.grants := by
    rw [grants, grants, waiting.window, waiting.refusal]
  obtain ⟨w, found⟩ := Option.isSome_iff_exists.mp waiting.attached
  rw [ticked, ← same]
  by_cases granting : later.grants
  · simp [granting, (waiting.loose.schedule_granted found granting).2]
  · simp [granting, (waiting.loose.schedule_denied granting).isRunning]

/-! ## Steps -/

theorem Tight.callMap (tight : Tight s) (c : Call)
    (clean : c = .stop → s.handle? ≠ none → s.page.window = true ∧ s.page.cancelError? = none) :
    Tight (s.callMap hooked c).2 :=
  tight_lendable.callMap Tight.keeps c (fun time _ => tight.tick time) (fun _ => tight.start)
    (fun stop => (tight.stop (clean stop)).tight) tight

theorem Tight.release (tight : Tight s)
    (clean : s.handle? ≠ none → s.page.window = true ∧ s.page.cancelError? = none) :
    Loose (s.release hooked) := by
  have leaving : Tight (s.onWidget fun w => { w with leaving := true }) := by
    refine ⟨tight.calm, ?_⟩
    have queue := tight.queue
    unfold expected at queue ⊢
    cases found : s.widget? <;> simpa [found] using queue
  have stopped : Loose ((s.onWidget fun w => { w with leaving := true }).stop hooked) := by
    refine leaving.stop ?_
    cases found : s.widget? with
    | none => simp [handle?, found]
    | some w => simpa [handle?, found] using clean
  exact ⟨stopped.calm, stopped.queue, by simp [Session.release]⟩

theorem Loose.create (loose : Loose s) (canvas settings : String) :
    Loose (s.create hooked canvas settings).2 := by
  unfold Session.create
  split
  · exact loose
  · rename_i accepted _
    split
    · exact loose
    · obtain ⟨ready, r, kept, _, _, mounted⟩ :=
        loose_lendable.mount_eq Loose.keeps canvas accepted loose
      rw [mounted]
      exact ⟨kept.calm, kept.queue, by rintro w ⟨⟩; rfl⟩

theorem Tight.step (tight : Tight s) (st : Step) (alone : st.hook? = none)
    (clean : s.StopsCleanly st) : Tight (s.step st).2 := by
  have armed : Tight (s.armed st) := ⟨alone, tight.queue⟩
  rw [Session.step]
  unfold StopsCleanly at clean
  cases action : st.action with
  | change c => exact ⟨armed.calm, (queue_change _ c).trans armed.queue⟩
  | load =>
      simp only [act, Session.load]
      split
      · exact armed
      · exact tight_lendable.log Tight.keeps _ ⟨armed.calm, armed.queue⟩
  | create canvas settings =>
      rw [action] at clean
      exact ((armed.release (clean rfl)).create canvas settings).tight
  | release =>
      rw [action] at clean
      exact (armed.release (clean rfl)).tight
  | call c =>
      rcases call_eq hooked c (s.armed st) with called | refused
      · simp only [act, called]
        refine armed.callMap c ?_
        rintro rfl
        rw [action] at clean
        exact clean rfl
      · simp only [act, refused]
        exact armed

theorem Tight.run (tight : Tight s) (steps : List Step) (clean : CleanRun s steps) :
    Tight (s.run steps) := by
  induction steps generalizing s with
  | nil => exact tight
  | cons st steps ih =>
      obtain ⟨alone, stops, rest⟩ := clean
      exact ih (tight.step st alone stops) rest

theorem tight_opened (c : Page.Change) : Tight (opened c) :=
  ⟨rfl, queue_change Page.blank c⟩

theorem Tight.pending (tight : Tight s) : s.pending = s.page.queue := by
  unfold Session.pending
  rw [tight.queue, expected]
  cases found : s.widget? with
  | none => rfl
  | some w => cases w.handle? <;> simp

/-- After every step of a session in which the page does not call back and every stop can take its
request back: a running loop has exactly one request waiting, the one whose handle the map holds,
and otherwise nothing is waiting, not even for a map that is gone. A tick ends a running loop
exactly when the page has no window or refuses the next request, whatever the frame came to. -/
theorem running_iff_one_pending (c : Page.Change) (steps : List Step)
    (clean : CleanRun (opened c) steps) :
    let s := (opened c).run steps
    (s.isRunning = true ↔ s.pending.length = 1) ∧
      (s.isRunning = true → ∃ w id, s.widget? = some w ∧ w.handle? = some id ∧
        s.page.queue = [⟨id, w.owner⟩]) ∧
      (s.isRunning = false → s.page.queue = []) ∧
      ∀ time breakage?, s.isRunning = true →
        ((s.step ⟨.call (.tick time), breakage?, none⟩).2.isRunning = false ↔
          s.page.window = false ∨ s.page.requestError? ≠ none) := by
  intro s
  have tight : Tight s := (tight_opened c).run steps clean
  have held : s.isRunning = true → ∃ w id, s.widget? = some w ∧ w.handle? = some id ∧
      s.page.queue = [⟨id, w.owner⟩] := by
    intro running
    obtain ⟨w, id, found, handle⟩ := isRunning_iff.mp running
    refine ⟨w, id, found, handle, ?_⟩
    rw [tight.queue, expected, found]
    simp [handle]
  have empty : s.isRunning = false → s.page.queue = [] := fun idle => (tight.loose idle).queue
  refine ⟨⟨?_, ?_⟩, held, empty, ?_⟩
  · intro running
    obtain ⟨w, id, _, _, queue⟩ := held running
    rw [tight.pending, queue, List.length_singleton]
  · intro one
    cases running : s.isRunning with
    | true => rfl
    | false =>
        rw [tight.pending, empty running] at one
        simp at one
  · intro time breakage? running
    -- the step only arms the session, which changes neither queue nor settings of the page
    let st : Step := ⟨.call (.tick time), breakage?, none⟩
    have armed : Tight (s.armed st) := ⟨rfl, tight.queue⟩
    calc (s.step st).2.isRunning = false
        ↔ ¬ ((s.armed st).tick hooked time).2.isRunning = true := by
          rw [Bool.not_eq_true]
          rfl
      _ ↔ ¬ s.grants := not_congr (armed.isRunning_tick running time)
      _ ↔ s.page.window = false ∨ s.page.requestError? ≠ none := by
          rw [grants, Decidable.not_and_iff_or_not, Bool.not_eq_true]

theorem one_pending_of_looped :
    CleanRun (opened framed) looped ∧ ((opened framed).run looped).pending.length = 1 := by
  have clean : CleanRun (opened framed) looped := by decide +kernel
  exact ⟨clean, (running_iff_one_pending framed looped clean).1.mp (by decide +kernel)⟩

end Session

end PositionMap
