import PositionMap.Proofs.Session.Inert
import PositionMap.Proofs.Session.Running

/-! # When a stopped loop stays stopped

A stop lets go of the handle and takes back the request behind it. Outside a frame that leaves the
loop inert exactly when no other request of the map is waiting and the request can be taken back.
During a frame of the loop there is no handle to let go of: the stop has no effect, and the frame
makes the next request like any other.
-/

namespace PositionMap

def Call.loops : Call → Bool
  | tick _ | start => true
  | _ => false

/-- Whether the map that is there stays and its loop is not set going. -/
def Action.leavesLoop : Action → Bool
  | create .. | release => false
  | change _ | load => true
  | call c => !c.loops

def Page.stopped (page : Page) (handle? : Option Nat) : Page :=
  match handle? with
  | none => page
  | some id => if page.window = true ∧ page.cancelError? = none then page.cancel id else page

namespace Session

/-- All that is waiting for the map can be taken back by a stop. -/
def Retractable (s : Session) : Prop :=
  ∀ request ∈ s.pending,
    s.handle? = some request.id ∧ s.page.window = true ∧ s.page.cancelError? = none

instance (s : Session) : Decidable s.Retractable :=
  inferInstanceAs (Decidable (∀ request ∈ s.pending, _))

def Harmless (hook? : Option Hook) : Prop :=
  ∀ hook, hook? = some hook → ∀ c ∈ hook.calls, c.loops = false

/-- The page is the given one, the map has the given owner and handle, and the hook is set as given
or off. -/
structure Holds (hook? : Option Hook) (page : Page) (owner : Nat) (handle? : Option Nat)
    (s : Session) : Prop where
  hook : s.hook? = none ∨ s.hook? = hook?
  page : s.page = page
  map : ∃ w, s.widget? = some w ∧ w.leaving = false ∧ w.owner = owner ∧ w.handle? = handle?

variable {hook? : Option Hook} {page : Page} {owner : Nat} {handle? : Option Nat}
  {react : Reaction} {s : Session}

theorem Holds.onWidget (holds : Holds hook? page owner handle? s) {f : Widget → Widget}
    {next? : Option Nat}
    (same : ∀ w, (f w).leaving = w.leaving ∧ (f w).owner = w.owner ∧
      (w.handle? = handle? → (f w).handle? = next?)) :
    Holds hook? page owner next? (s.onWidget f) := by
  obtain ⟨w, found, here, own, held⟩ := holds.map
  obtain ⟨leaving, owns, handle⟩ := same w
  exact ⟨holds.hook, holds.page, f w, by simp [found], leaving.trans here, owns.trans own,
    handle held⟩

theorem holds_lendable (hook? : Option Hook) (page : Page) (owner : Nat) (handle? : Option Nat) :
    Lendable (Holds hook? page owner handle?) where
  record _ _ _ h := ⟨h.hook, h.page, h.map⟩
  breakage _ _ h := ⟨h.hook, h.page, h.map⟩
  lending _ _ h := h.onWidget fun _ => ⟨rfl, rfl, id⟩

theorem Holds.answer (holds : Holds hook? page owner handle? s) (hookReplies : Array Reply) :
    Holds hook? page owner handle? { s with hookReplies } :=
  ⟨holds.hook, holds.page, holds.map⟩

theorem Holds.logged (holds : Holds hook? page owner handle? s) :
    Holds hook? page owner handle? { s with logging := true } :=
  ⟨holds.hook, holds.page, holds.map⟩

theorem Holds.hasMap (holds : Holds hook? page owner handle? s) : s.hasMap = true := by
  obtain ⟨w, found, here, _⟩ := holds.map
  simp [Session.hasMap, found, here]

theorem Holds.isRunning (holds : Holds hook? page owner none s) : s.isRunning = false := by
  obtain ⟨w, found, _, _, held⟩ := holds.map
  simp [Session.isRunning, Widget.running, found, held]

/-! ## Stops outside a frame -/

theorem Holds.cancelRequest (keeps : Keeps react (Holds hook? page owner none))
    (holds : Holds hook? page owner none s) (id : Nat) :
    Holds hook? (if page.cancelError? = none then page.cancel id else page) owner none
      (s.cancelRequest react id) := by
  have lendable := holds_lendable hook? page owner none
  have told := lendable.emit keeps (.cancelled id) rfl holds
  simp only [Session.cancelRequest, told.page]
  cases page.cancelError? with
  | none => exact ⟨told.hook, rfl, told.map⟩
  | some message => exact lendable.log keeps _ told

/-- A stop lets go of the handle, and takes its request back if the page lets it. -/
theorem Holds.stop (keeps : ∀ page, Keeps react (Holds hook? page owner none))
    (holds : Holds hook? page owner handle? s) :
    Holds hook? (page.stopped handle?) owner none (s.stop react) := by
  obtain ⟨w, found, _, _, held⟩ := holds.map
  have handle : s.widget?.bind Widget.handle? = handle? := by simp [found, held]
  unfold Session.stop
  rw [handle]
  cases handle? with
  | none => exact holds
  | some id =>
      have released :
          Holds hook? page owner none (s.onWidget fun w => { w with handle? := none }) :=
        holds.onWidget fun _ => ⟨rfl, rfl, fun _ => rfl⟩
      refine (holds_lendable _ _ owner none).log (keeps _) _ ?_
      by_cases window : page.window = true
      · simp only [page_onWidget, holds.page, window, if_true, Page.stopped, true_and]
        exact released.cancelRequest (keeps page) id
      · simp only [page_onWidget, holds.page, window, Page.stopped]
        exact released

/-- Calls that ask for no frame leave page and handle alone, a stop of a running loop aside. -/
theorem Holds.call (keeps : Keeps react (Holds hook? page owner handle?))
    (holds : Holds hook? page owner handle? s) {c : Call} (harmless : c.loops = false)
    (stops : c = .stop → Holds hook? page owner handle? (s.stop react)) :
    Holds hook? page owner handle? (s.call react c).2 := by
  have lendable := holds_lendable hook? page owner handle?
  refine call_of_callMap (lendable.callMap keeps c ?_ ?_ stops holds) holds
  · rintro time rfl
    simp [Call.loops] at harmless
  · rintro rfl
    simp [Call.loops] at harmless

theorem Holds.call_quiet (holds : Holds hook? page owner none s) {c : Call}
    (harmless : c.loops = false) : Holds hook? page owner none (s.call quiet c).2 :=
  holds.call (quiet_keeps _) harmless fun _ => holds.stop fun _ => quiet_keeps _

/-- The calls of a hook stop the loop if there is a stop among them. -/
theorem Holds.callBack_stop (holds : Holds hook? page owner handle? s) {calls : List Call}
    (harmless : ∀ c ∈ calls, c.loops = false) (stops : .stop ∈ calls) :
    Holds hook? (page.stopped handle?) owner none (s.callBack calls) := by
  induction calls generalizing s with
  | nil => simp at stops
  | cons c calls ih =>
      rw [callBack_cons]
      have rest : ∀ c ∈ calls, c.loops = false := fun c member =>
        harmless c (List.mem_cons_of_mem _ member)
      by_cases stop : c = .stop
      · have stopped : Holds hook? (page.stopped handle?) owner none (s.call quiet c).2 := by
          rw [stop, call_of_hasMap quiet holds.hasMap]
          exact holds.stop fun _ => quiet_keeps _
        -- a stop that follows finds no handle any more
        exact callBack_keeps (fun _ replies h => h.answer replies)
          (fun c member _ h => h.call_quiet (rest c member)) (stopped.answer _)
      · have kept := holds.call (quiet_keeps _) (harmless c List.mem_cons_self)
          fun same => absurd same stop
        have later : Call.stop ∈ calls := by
          rcases List.mem_cons.mp stops with same | member
          · exact absurd same.symm stop
          · exact member
        exact ih (kept.answer _) rest later

theorem Holds.callBack (holds : Holds hook? page owner handle? s) {calls : List Call}
    (harmless : ∀ c ∈ calls, c.loops = false) (stops : .stop ∉ calls) :
    Holds hook? page owner handle? (s.callBack calls) :=
  callBack_keeps (fun _ replies h => h.answer replies)
    (fun c member _ h => h.call (quiet_keeps _) (harmless c member) fun stop =>
      absurd (stop ▸ member) stops) holds

theorem Holds.own (holds : Holds hook? page owner handle? s) {hook : Hook}
    (set : s.hook? = some hook) : hook? = some hook := by
  rcases holds.hook with off | same
  · simp [set] at off
  · rw [← same, set]

theorem Holds.unhook (holds : Holds hook? page owner handle? s) :
    Holds hook? page owner handle? { s with hook? := none } :=
  ⟨.inl rfl, holds.page, holds.map⟩

theorem Holds.keeps (harmless : Harmless hook?) : Keeps hooked (Holds hook? page owner none) := by
  refine hooked_keeps fun s hook set holds => ?_
  exact callBack_keeps (fun _ replies h => h.answer replies)
    (fun c member _ h => h.call_quiet (harmless hook (holds.own set) c member)) holds.unhook

/-- Until a stop is reached in the hook, the loop is as it was. -/
structure Stage (hook? : Option Hook) (page : Page) (owner : Nat) (handle? : Option Nat)
    (s : Session) : Prop where
  before : ¬ Reached .stop hook? s → Holds hook? page owner handle? s
  after : Reached .stop hook? s → Holds hook? (page.stopped handle?) owner none s

theorem stage_lendable (hook? : Option Hook) (page : Page) (owner : Nat) (handle? : Option Nat) :
    Lendable (Stage hook? page owner handle?) where
  record s e free h :=
    ⟨fun early => (holds_lendable _ _ _ _).record s e free (h.before early),
      fun late => (holds_lendable _ _ _ _).record s e free (h.after late)⟩
  breakage s b h :=
    ⟨fun early => (holds_lendable _ _ _ _).breakage s b (h.before early),
      fun late => (holds_lendable _ _ _ _).breakage s b (h.after late)⟩
  lending s r h :=
    ⟨fun early => (holds_lendable _ _ _ _).lending s r (h.before early),
      fun late => (holds_lendable _ _ _ _).lending s r (h.after late)⟩

theorem Stage.keeps (harmless : Harmless hook?) :
    Keeps hooked (Stage hook? page owner handle?) := by
  refine hooked_keeps fun s hook set stage => ?_
  have holds := stage.before (not_reached_of_set set)
  have own := holds.own set
  have stops := reached_iff (c := .stop) own
    (callBack_hook? (s := { s with hook? := none }) hook.calls rfl)
  exact ⟨fun early => holds.unhook.callBack (harmless hook own) (mt stops.mpr early),
    fun late => holds.unhook.callBack_stop (harmless hook own) (stops.mp late)⟩

/-- Outside the frames of the loop an action that is no stop leaves the stopping to the hook. -/
theorem Stage.act (stage : Stage hook? page owner handle? s) (harmless : Harmless hook?)
    {action : Action} (outside : action.leavesLoop = true) (stop : action ≠ .call .stop)
    (change : ∀ c, action ≠ .change c) :
    Stage hook? page owner handle? (s.act hooked action).2 := by
  have lendable := stage_lendable hook? page owner handle?
  have keeps : Keeps hooked (Stage hook? page owner handle?) := Stage.keeps harmless
  cases action with
  | change c => exact absurd rfl (change c)
  | load =>
      have shown : Stage hook? page owner handle? { s with logging := true } :=
        ⟨fun early => (stage.before early).logged, fun late => (stage.after late).logged⟩
      simp only [Session.act, Session.load]
      split
      · exact stage
      · exact lendable.log keeps _ shown
  | create canvas settings => simp [Action.leavesLoop] at outside
  | release => simp [Action.leavesLoop] at outside
  | call c =>
      refine call_of_callMap (lendable.callMap keeps c ?_ ?_ ?_ stage) stage
      · rintro time rfl
        simp [Action.leavesLoop, Call.loops] at outside
      · rintro rfl
        simp [Action.leavesLoop, Call.loops] at outside
      · rintro rfl
        exact absurd rfl stop

/-- A map that is there before a step outside the frames of its loop is stopped after the step, if
a stop is called in it. -/
theorem Holds.step {st : Step} (armed : Holds st.hook? page owner handle? (s.armed st))
    (outside : st.action.leavesLoop = true) (harmless : Harmless st.hook?)
    (called : s.Calls .stop st) :
    Holds st.hook? (page.stopped handle?) owner none (s.step st).2 := by
  by_cases stop : st.action = .call .stop
  · have stopped := armed.stop fun _ => Holds.keeps harmless
    rw [Session.step, stop, act, call_of_hasMap hooked armed.hasMap]
    exact stopped
  · have reached : Reached .stop st.hook? (s.step st).2 := called.resolve_left stop
    obtain ⟨⟨hook, set, _⟩, off⟩ := id reached
    have stage : Stage st.hook? page owner handle? (s.armed st) := by
      refine ⟨fun _ => armed, fun late => absurd late ?_⟩
      exact not_reached_of_set (show (s.armed st).hook? = some hook from set)
    have change : ∀ c, st.action ≠ .change c := by
      intro c action
      rw [Session.step, action] at off
      cases set.symm.trans off
    exact (stage.act harmless outside stop change).after reached

/-- No request of the owner is left on the page after a stop, exactly when each one is that behind
the handle and can be taken back. -/
theorem stopped_clear_iff (page : Page) (owner : Nat) (handle? : Option Nat) :
    (∀ request ∈ (page.stopped handle?).queue, request.owner ≠ owner) ↔
      ∀ request ∈ page.queue, request.owner = owner →
        handle? = some request.id ∧ page.window = true ∧ page.cancelError? = none := by
  cases handle? with
  | none => simp [Page.stopped]
  | some id =>
      by_cases allowed : page.window = true ∧ page.cancelError? = none
      · have stopped : page.stopped (some id) = page.cancel id := if_pos allowed
        simp only [stopped, Page.cancel, List.mem_filter, bne_iff_ne, Option.some.injEq]
        constructor
        · intro clear request member own
          refine ⟨Decidable.byContradiction fun other => ?_, allowed⟩
          exact clear request ⟨member, fun same => other same.symm⟩ own
        · rintro covered request ⟨member, other⟩ own
          exact other (covered request member own).1.symm
      · have stopped : page.stopped (some id) = page := if_neg allowed
        simp only [stopped, allowed, and_false]

theorem retractable_iff {w : Widget} (found : s.widget? = some w) :
    s.Retractable ↔ ∀ request ∈ s.page.queue, request.owner = w.owner →
      w.handle? = some request.id ∧ s.page.window = true ∧ s.page.cancelError? = none := by
  simp [Retractable, pending, found, handle?]

/-- A stop outside a frame of the loop leaves it inert exactly when all that was waiting for the map
could be taken back. -/
theorem inert_of_stop_outside (ordered : Ordered s) (live : s.hasMap = true) {st : Step}
    (outside : st.action.leavesLoop = true) (harmless : Harmless st.hook?)
    (called : s.Calls .stop st) : (s.step st).2.Inert ↔ s.Retractable := by
  cases found : s.widget? with
  | none => simp [hasMap, found] at live
  | some w =>
      have here : w.leaving = false := by simpa [hasMap, found] using live
      have armed : Holds st.hook? s.page w.owner w.handle? (s.armed st) :=
        ⟨.inr rfl, rfl, w, found, here, rfl, rfl⟩
      have stopped := armed.step outside harmless called
      obtain ⟨v, there, _, own, _⟩ := stopped.map
      have gone : (s.step st).2.pending = [] ↔ s.Retractable := by
        rw [pending_eq_nil_iff, retractable_iff found, ← stopped_clear_iff, ← own, ← stopped.page]
        simp [there]
      rw [inert_iff (ordered.step st), gone]
      simp [stopped.isRunning]

/-! ## Stops during a frame -/

def Owned (owner : Nat) (s : Session) : Prop :=
  ∃ w, s.widget? = some w ∧ w.owner = owner

theorem Owned.onWidget (owned : Owned owner s) {f : Widget → Widget}
    (same : ∀ w, (f w).owner = w.owner) : Owned owner (s.onWidget f) := by
  obtain ⟨w, found, own⟩ := owned
  exact ⟨f w, by simp [found], (same w).trans own⟩

/-- Once a request of the map is granted, what every such frame comes to holds after all frames. -/
theorem foldl_grant_reaches {P Q : Session → Prop} {time : Float} (weaken : ∀ s, Q s → P s)
    (owned : ∀ s, P s → Owned owner s)
    (granted : ∀ s request, request.owner = owner → P s → Q (s.grant react time request))
    (requests : List Request)
    (due : Q s ∨ P s ∧ ∃ request ∈ requests, request.owner = owner) :
    Q (requests.foldl (grant react time) s) := by
  induction requests generalizing s with
  | nil =>
      rcases due with reached | ⟨_, request, member, _⟩
      · exact reached
      · simp at member
  | cons request requests ih =>
      have before : P s := by
        rcases due with reached | ⟨before, _⟩
        · exact weaken s reached
        · exact before
      rw [List.foldl_cons]
      by_cases own : request.owner = owner
      · exact ih (.inl (granted s request own before))
      · have ignored : s.grant react time request = s := by
          refine grant_of_foreign react time fun w found same => ?_
          obtain ⟨v, there, owns⟩ := owned s before
          cases there.symm.trans found
          exact own (same.trans owns)
        rw [ignored]
        -- the request was of a map that is gone, so that of this map is still to come
        refine ih (due.imp id fun ⟨_, other, member, owns⟩ => ⟨before, other, ?_, owns⟩)
        rcases List.mem_cons.mp member with rfl | later
        · exact absurd owns own
        · exact later

structure Granting (owner : Nat) (s : Session) : Prop where
  grants : s.grants
  owned : Owned owner s

theorem granting_enduring (owner : Nat) : Enduring (Granting owner) where
  record _ _ _ h := ⟨h.grants, h.owned⟩
  breakage _ _ h := ⟨h.grants, h.owned⟩
  lending _ _ h := ⟨h.grants, h.owned.onWidget fun _ => rfl⟩
  pace _ _ h := ⟨h.grants, h.owned.onWidget fun _ => rfl⟩
  letGo _ _ h := ⟨h.grants, h.owned.onWidget fun _ => rfl⟩
  cancel _ _ h := ⟨h.grants, h.owned⟩
  take _ h := ⟨h.grants, h.owned⟩
  unhook _ h := ⟨h.grants, h.owned⟩
  answer _ _ h := ⟨h.grants, h.owned⟩

theorem Granting.schedules (keeps : Keeps react (Granting owner)) :
    Schedules react (Granting owner) :=
  (granting_enduring owner).schedules keeps (fun _ _ _ h => ⟨h.grants, h.owned⟩)
    fun _ _ h => ⟨h.grants, h.owned.onWidget fun _ => rfl⟩

theorem Granting.keeps : Keeps hooked (Granting owner) :=
  (granting_enduring owner).hooked_keeps (Granting.schedules (quiet_keeps _))

/-- Whatever the page does on its own when it is asked for a frame, the loop runs afterwards. -/
theorem Granting.isRunning_schedule (keeps : Keeps react (Granting owner))
    (granting : Granting owner s) : (s.schedule react).isRunning = true := by
  obtain ⟨w, found, own⟩ := granting.owned
  have asked : Granting owner (({ s with page := s.page.request w.owner } : Session).emit react
      (.requested s.page.nextId)) := keeps _ _ ⟨granting.grants, w, found, own⟩
  obtain ⟨v, there, _⟩ := asked.owned
  rw [schedule_granted react found granting.grants]
  simp [Session.isRunning, Widget.running, there]

/-- The page grants no request, the map is there without a handle, and nothing but the given
requests is waiting. -/
structure Denied (owner : Nat) (requests : List Request) (s : Session) : Prop where
  denied : ¬ s.grants
  map : ∃ w, s.widget? = some w ∧ w.owner = owner ∧ w.handle? = none
  fewer : ∀ request ∈ s.page.queue, request ∈ requests

variable {requests : List Request}

theorem Denied.onWidget (denied : Denied owner requests s) {f : Widget → Widget}
    (same : ∀ w, (f w).owner = w.owner ∧ (w.handle? = none → (f w).handle? = none)) :
    Denied owner requests (s.onWidget f) := by
  obtain ⟨w, found, own, stopped⟩ := denied.map
  exact ⟨denied.denied, ⟨f w, by simp [found], (same w).1.trans own, (same w).2 stopped⟩,
    denied.fewer⟩

theorem denied_enduring (owner : Nat) (requests : List Request) :
    Enduring (Denied owner requests) where
  record _ _ _ h := ⟨h.denied, h.map, h.fewer⟩
  breakage _ _ h := ⟨h.denied, h.map, h.fewer⟩
  lending _ _ h := h.onWidget fun _ => ⟨rfl, id⟩
  pace _ _ h := h.onWidget fun _ => ⟨rfl, id⟩
  letGo _ _ h := h.onWidget fun _ => ⟨rfl, fun _ => rfl⟩
  cancel _ _ h :=
    ⟨h.denied, h.map, fun request member => h.fewer request (List.mem_filter.mp member).1⟩
  take _ h := ⟨h.denied, h.map, by simp⟩
  unhook _ h := ⟨h.denied, h.map, h.fewer⟩
  answer _ _ h := ⟨h.denied, h.map, h.fewer⟩

theorem Denied.schedules (keeps : Keeps react (Denied owner requests)) :
    Schedules react (Denied owner requests) :=
  fun _ h => (denied_enduring owner requests).schedule_denied keeps h.denied h

theorem Denied.keeps : Keeps hooked (Denied owner requests) :=
  (denied_enduring owner requests).hooked_keeps (Denied.schedules (quiet_keeps _))

theorem Denied.isRunning (denied : Denied owner requests s) : s.isRunning = false := by
  obtain ⟨w, found, _, stopped⟩ := denied.map
  simp [Session.isRunning, Widget.running, found, stopped]

theorem Denied.pending (denied : Denied owner [] s) : s.pending = [] := by
  refine pending_eq_nil_iff.mpr fun w found request member => ?_
  simpa using denied.fewer request member

/-- A frame of the loop sets it going again, whatever the page calls meanwhile. -/
theorem isRunning_tick_of_grants (granting : Granting owner s)
    (due : ∃ request ∈ s.page.queue, request.owner = owner) (time : Float) :
    (s.tick hooked time).2.isRunning = true := by
  have enduring := granting_enduring owner
  have frames : ∀ s request, request.owner = owner → Granting owner s →
      Granting owner (s.grant hooked time request) ∧
        (s.grant hooked time request).isRunning = true := by
    intro s request own granting
    obtain ⟨w, found, owns⟩ := granting.owned
    obtain ⟨later, kept, granted⟩ := enduring.grant_eq Granting.keeps time found
      (owns.trans own.symm) (enduring.letGo s (fun pacer => pacer.offer time) granting)
    rw [granted]
    exact ⟨Granting.schedules Granting.keeps later kept,
      kept.isRunning_schedule Granting.keeps⟩
  have taken := enduring.take s granting
  exact (foldl_grant_reaches (P := Granting owner)
    (Q := fun s => Granting owner s ∧ s.isRunning = true) (fun _ h => h.1) (fun _ h => h.owned)
    frames s.page.queue (.inr ⟨taken, due⟩)).2

/-- A frame that cannot ask for the next one ends the loop, whatever the page calls meanwhile. -/
theorem denied_tick (denied : ¬ s.grants) (owned : Owned owner s)
    (due : ∃ request ∈ s.page.queue, request.owner = owner) (time : Float) :
    Denied owner [] (s.tick hooked time).2 := by
  have frames : ∀ s request, request.owner = owner →
      (¬ s.grants ∧ Owned owner s ∧ s.page.queue = []) →
        Denied owner [] (s.grant hooked time request) := by
    rintro s request own ⟨denied, ⟨w, found, owns⟩, empty⟩
    let offered : Widget := { w with handle? := none, pacer := w.pacer.offer time }
    have released : Denied owner []
        (s.onWidget fun w => { w with handle? := none, pacer := w.pacer.offer time }) :=
      ⟨denied, ⟨offered, by simp [found, offered], owns, rfl⟩, by simp [empty]⟩
    obtain ⟨later, kept, granted⟩ := (denied_enduring owner []).grant_eq Denied.keeps time found
      (owns.trans own.symm) released
    rw [granted]
    exact Denied.schedules Denied.keeps later kept
  refine foldl_grant_reaches ?_ (fun _ h => h.2.1) frames s.page.queue
    (.inr ⟨⟨denied, owned, rfl⟩, due⟩)
  intro s h
  obtain ⟨w, found, own, _⟩ := h.map
  exact ⟨h.denied, ⟨w, found, own⟩, List.eq_nil_iff_forall_not_mem.mpr (by simpa using h.fewer)⟩

/-- A tick that reaches the hook of its step grants a frame of the map. -/
theorem due_of_reached {st : Step} {c : Call} {w : Widget} {time : Float}
    (found : s.widget? = some w) (action : st.action = .call (.tick time))
    (reached : Reached c st.hook? (s.step st).2) :
    ∃ request ∈ s.page.queue, request.owner = w.owner := by
  refine Decidable.byContradiction fun none => ?_
  obtain ⟨⟨hook, set, _⟩, off⟩ := reached
  have foreign : ∀ v, s.widget? = some v → ∀ request ∈ s.page.queue, request.owner ≠ v.owner := by
    intro v there request member own
    cases found.symm.trans there
    exact none ⟨request, member, own⟩
  have idle := foldl_grant_of_foreign (s := { s.armed st with page := { s.page with queue := [] } })
    hooked time s.page.queue foreign
  have waits : (s.step st).2.hook? = some hook := by
    rw [Session.step, action]
    exact (congrArg Session.hook? idle).trans set
  simp [waits] at off

/-- A tick in which a stop is called leaves the loop inert exactly when the page does not grant the
next request. -/
theorem inert_of_stop_in_tick (ordered : Ordered s) (live : s.hasMap = true) {st : Step}
    {time : Float} (action : st.action = .call (.tick time)) (called : s.Calls .stop st) :
    (s.step st).2.Inert ↔ ¬ s.grants := by
  cases found : s.widget? with
  | none => simp [hasMap, found] at live
  | some w =>
      have reached : Reached .stop st.hook? (s.step st).2 :=
        called.resolve_left (by simp [action])
      have due := due_of_reached found action reached
      have stepped : (s.step st).2 = ((s.armed st).tick hooked time).2 := by
        rw [Session.step, action]
        rfl
      rw [inert_iff (ordered.step st), stepped]
      by_cases granting : s.grants
      · have running : ((s.armed st).tick hooked time).2.isRunning = true :=
          isRunning_tick_of_grants (s := s.armed st) ⟨granting, w, found, rfl⟩ due time
        simp [running, granting]
      · have denied : Denied w.owner [] ((s.armed st).tick hooked time).2 :=
          denied_tick (s := s.armed st) granting ⟨w, found, rfl⟩ due time
        simp [denied.isRunning, denied.pending, granting]

/-- A start in which a stop is called leaves the loop running exactly when the page grants the
request. -/
theorem isRunning_of_stop_in_start (live : s.hasMap = true) {st : Step}
    (action : st.action = .call .start) (called : s.Calls .stop st) :
    (s.step st).2.isRunning = true ↔ s.grants := by
  cases found : s.widget? with
  | none => simp [hasMap, found] at live
  | some w =>
      obtain ⟨⟨hook, set, _⟩, off⟩ : Reached .stop st.hook? (s.step st).2 :=
        called.resolve_left (by simp [action])
      have stepped : (s.step st).2 = (s.armed st).start hooked := by
        have armed : (s.armed st).hasMap = true := live
        rw [Session.step, action, act, call_of_hasMap hooked armed]
        rfl
      rw [stepped] at off ⊢
      have there : (s.armed st).widget? = some w := found
      cases running : w.running with
      | true =>
          have idle : (s.armed st).start hooked = s.armed st := by
            simp [Session.start, there, running]
          rw [idle] at off
          cases set.symm.trans off
      | false =>
          have handle : w.handle? = none := by simpa [Widget.running] using running
          by_cases granting : s.grants
          · have enduring := granting_enduring w.owner
            have informed : Granting w.owner ((s.armed st).info hooked "animation started") :=
              enduring.log Granting.keeps _ ⟨granting, w, found, rfl⟩
            have started := (enduring.pace _ Pacer.reset informed).isRunning_schedule Granting.keeps
            simpa [Session.start, there, running, granting] using started
          · have denied : Denied w.owner s.page.queue ((s.armed st).start hooked) :=
              (denied_enduring w.owner s.page.queue).start Denied.keeps
                (Denied.schedules Denied.keeps)
                ⟨granting, ⟨w, found, rfl, handle⟩, fun _ member => member⟩
            simp [denied.isRunning, granting]

/-- After a step in which a stop is called the loop is inert exactly when it does not run and no
request of its map is left. Outside the frames of the loop that is when each request that was
waiting could be taken back. In a tick, which then grants a frame of the loop, it is when the page
does not grant the next request. A start goes on as if there had been no stop. -/
theorem inert_after_stop_iff (c : Page.Change) (steps : List Step) (st : Step) :
    let s := (opened c).run steps
    let later := (s.step st).2
    s.hasMap = true → s.Calls .stop st →
      (later.Inert ↔ later.isRunning = false ∧ later.pending = []) ∧
      (st.action.leavesLoop = true → Harmless st.hook? → (later.Inert ↔ s.Retractable)) ∧
      (∀ time, st.action = .call (.tick time) → (later.Inert ↔ ¬ s.grants)) ∧
      (st.action = .call .start → (later.isRunning = true ↔ s.grants)) := by
  intro s later live called
  have ordered : Ordered s := ordered_run c steps
  refine ⟨inert_iff (ordered.step st), ?_, ?_, ?_⟩
  · intro outside harmless
    exact inert_of_stop_outside ordered live outside harmless called
  · intro time action
    exact inert_of_stop_in_tick ordered live action called
  · intro action
    exact isRunning_of_stop_in_start live action called

theorem inert_after_stop_of_looped :
    let s := (opened framed).run looped
    s.hasMap = true ∧ (s.step ⟨.call .stop, none, none⟩).2.Inert := by
  intro s
  have live : s.hasMap = true := by decide +kernel
  have inert := (inert_after_stop_iff framed looped ⟨.call .stop, none, none⟩ live (.inl rfl)).2.1
    rfl nofun
  exact ⟨live, inert.mpr (by decide +kernel)⟩

/-- A stop while a frame measures the canvas leaves the loop running, and a stop that could not take
its request back leaves a frame that sets the loop going again. -/
theorem loop_survives_stop :
    let s := (opened framed).run looped
    let inFrame : Step := ⟨.call (.tick 32), none, some ⟨"getBoundingClientRect", [.stop]⟩⟩
    let refusing : Page.Change := ⟨none, none, none, none, some (some "refused"), []⟩
    let stopped := (s.step ⟨.change refusing, none, none⟩).2.step ⟨.call .stop, none, none⟩
    (s.Calls .stop inFrame ∧ (s.step inFrame).2.isRunning = true) ∧
      stopped.2.isRunning = false ∧
        (stopped.2.step ⟨.call (.tick 32), none, none⟩).2.isRunning = true := by
  refine ⟨⟨.inr ⟨⟨_, rfl, List.mem_singleton_self _⟩, ?_⟩, ?_⟩, ?_, ?_⟩ <;> decide +kernel

end Session

end PositionMap
