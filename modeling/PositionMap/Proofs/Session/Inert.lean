import PositionMap.Proofs.Session.Reach

/-! # Loops that nothing sets going

A loop is inert when only a start can set it going again. It is exactly when it does not run and no
request of its map is waiting: a request that is left over is granted at the next tick, and its
frame requests the next one.
-/

namespace PositionMap.Session

/-- The hook has the call among its calls, and it was reached: it is off. -/
def Reached (c : Call) (hook? : Option Hook) (s : Session) : Prop :=
  (∃ hook, hook? = some hook ∧ c ∈ hook.calls) ∧ s.hook? = none

def Calls (c : Call) (s : Session) (st : Step) : Prop :=
  st.action = .call c ∨ Reached c st.hook? (s.step st).2

def StartFree : Session → List Step → Prop
  | _, [] => True
  | s, st :: steps => ¬ s.Calls .start st ∧ StartFree (s.step st).2 steps

/-- Until a start is called, no loop runs, no frame of the map is left to be granted, and none is
requested. -/
def Inert (s : Session) : Prop :=
  ∀ steps, StartFree s steps →
    (s.run steps).isRunning = false ∧ (s.run steps).pending = [] ∧
      ∀ st, ¬ (s.run steps).Calls .start st →
        ∀ id, .requested id ∉ ((s.run steps).step st).2.journal

variable {react : Reaction} {s : Session} {hook? : Option Hook}

theorem not_reached_of_same {c : Call} (same : s.hook? = hook?) : ¬ Reached c hook? s := by
  rintro ⟨⟨hook, set, _⟩, off⟩
  cases (same.trans set).symm.trans off

theorem not_reached_of_set {c : Call} {hook : Hook} (set : s.hook? = some hook) :
    ¬ Reached c hook? s := by
  rintro ⟨_, off⟩
  cases set.symm.trans off

/-- Once the hook is off, its calls are those that were reached. -/
theorem reached_iff {c : Call} {hook : Hook} (own : hook? = some hook) (off : s.hook? = none) :
    Reached c hook? s ↔ c ∈ hook.calls := by
  simp [Reached, own, off]

/-! ## Requests of nobody -/

theorem foldl_grant_of_foreign (react : Reaction) (time : Float) (requests : List Request)
    (foreign : ∀ w, s.widget? = some w → ∀ request ∈ requests, request.owner ≠ w.owner) :
    requests.foldl (grant react time) s = s := by
  induction requests with
  | nil => rfl
  | cons request requests ih =>
      have ignored : s.grant react time request = s :=
        grant_of_foreign react time fun w found => foreign w found request List.mem_cons_self
      rw [List.foldl_cons, ignored]
      exact ih fun w found r member => foreign w found r (List.mem_cons_of_mem _ member)

structure Idle (s : Session) : Prop where
  ordered : Ordered s
  stopped : ∀ w, s.widget? = some w → w.handle? = none
  gone : ∀ w, s.widget? = some w → ∀ request ∈ s.page.queue, request.owner ≠ w.owner

theorem Idle.onWidget (idle : Idle s) {f : Widget → Widget}
    (same : ∀ w, (f w).owner = w.owner ∧ (w.handle? = none → (f w).handle? = none)) :
    Idle (s.onWidget f) where
  ordered := idle.ordered.onWidget fun w => (same w).1
  stopped := by
    intro w found
    obtain ⟨v, there, rfl⟩ := Option.map_eq_some_iff.mp found
    exact (same v).2 (idle.stopped v there)
  gone := by
    intro w found
    obtain ⟨v, there, rfl⟩ := Option.map_eq_some_iff.mp found
    rw [(same v).1]
    exact idle.gone v there

theorem Idle.tick (idle : Idle s) (react : Reaction) (time : Float) :
    (s.tick react time).2 = { s with page := { s.page with queue := [] } } :=
  foldl_grant_of_foreign react time s.page.queue idle.gone

theorem Idle.pending (idle : Idle s) : s.pending = [] :=
  pending_eq_nil_iff.mpr idle.gone

theorem Idle.isRunning (idle : Idle s) : s.isRunning = false :=
  isRunning_eq_false_iff.mpr idle.stopped

/-! ## A step without a start -/

/-- The loop is idle, nothing was requested since the step began, and the hook of the step is
still set or was taken off. -/
structure Still (hook? : Option Hook) (s : Session) : Prop where
  idle : Idle s
  silent : ∀ effect ∈ s.journal, effect.asks = false
  hook : s.hook? = none ∨ s.hook? = hook?

theorem Still.onWidget (still : Still hook? s) {f : Widget → Widget}
    (same : ∀ w, (f w).owner = w.owner ∧ (w.handle? = none → (f w).handle? = none)) :
    Still hook? (s.onWidget f) :=
  ⟨still.idle.onWidget same, still.silent, still.hook⟩

theorem Still.of_same {later : Session} (still : Still hook? s) (page : later.page = s.page)
    (widget : later.widget? = s.widget?) (owner : later.nextOwner = s.nextOwner)
    (journal : later.journal = s.journal) (hook : later.hook? = none ∨ later.hook? = s.hook?) :
    Still hook? later where
  idle := by
    obtain ⟨⟨live, waiting⟩, stopped, gone⟩ := still.idle
    constructor
    · exact ⟨by rwa [widget, owner], by rwa [page, owner]⟩
    · rwa [widget]
    · rwa [widget, page]
  silent := by
    rw [journal]
    exact still.silent
  hook := by
    rcases hook with off | same
    · exact .inl off
    · rw [same]
      exact still.hook

theorem still_lasting (hook? : Option Hook) : Lasting (Still hook?) where
  record s effect free h := by
    refine ⟨⟨ordered_lasting.record s effect free h.idle.ordered, h.idle.stopped, h.idle.gone⟩,
      ?_, h.hook⟩
    intro e member
    rcases Array.mem_push.mp member with before | rfl
    · exact h.silent e before
    · exact free
  breakage _ _ h := h.of_same rfl rfl rfl rfl (.inr rfl)
  lending _ _ h := h.onWidget fun _ => ⟨rfl, id⟩
  pace _ _ h := h.onWidget fun _ => ⟨rfl, id⟩
  letGo _ _ h := h.onWidget fun _ => ⟨rfl, fun _ => rfl⟩
  cancel s id h := by
    have fewer (request : Request) (member : request ∈ (s.page.cancel id).queue) :
        request ∈ s.page.queue := (List.mem_filter.mp member).1
    exact ⟨⟨ordered_lasting.cancel s id h.idle.ordered, h.idle.stopped,
      fun w found request member => h.idle.gone w found request (fewer request member)⟩,
      h.silent, h.hook⟩
  take s h := ⟨⟨ordered_lasting.take s h.idle.ordered, h.idle.stopped, by simp⟩, h.silent, h.hook⟩
  unhook _ h := h.of_same rfl rfl rfl rfl (.inl rfl)
  answer _ _ h := h.of_same rfl rfl rfl rfl (.inr rfl)
  change s c h := by
    refine ⟨⟨ordered_lasting.change s c h.idle.ordered, h.idle.stopped, ?_⟩, h.silent, h.hook⟩
    simpa [queue_change] using h.idle.gone
  logging _ h := h.of_same rfl rfl rfl rfl (.inr rfl)
  leave _ h := h.onWidget fun _ => ⟨rfl, id⟩
  retire s h :=
    ⟨⟨ordered_lasting.retire s h.idle.ordered, by simp, by simp⟩, h.silent, h.hook⟩
  install s renderer? pacer h := by
    refine ⟨⟨ordered_lasting.install s renderer? pacer h.idle.ordered, ?_, ?_⟩, h.silent, h.hook⟩
    · rintro w ⟨⟩
      rfl
    · rintro w ⟨⟩ request member
      exact Nat.ne_of_lt (h.idle.ordered.waiting request member)

theorem reached_lasting (c : Call) (hook? : Option Hook) : Lasting (Reached c hook?) :=
  hook_lasting (p := fun set? => _ ∧ set? = none) fun _ h => ⟨h.1, rfl⟩

theorem Reached.call {c : Call} (reached : Reached c hook? s)
    (calm : Keeps react (Reached c hook?)) (d : Call) : Reached c hook? (s.call react d).2 :=
  (reached_lasting c hook?).call calm
    ((reached_lasting c hook?).schedules calm (fun _ _ _ h => h) fun _ _ h => h) d reached

theorem callBack_hook? (calls : List Call) (calm : s.hook? = none) :
    (s.callBack calls).hook? = none :=
  callBack_keeps (P := fun s => s.hook? = none) (fun _ _ h => h)
    (fun c _ _ h => calm_lasting.call (quiet_keeps _)
      (calm_lasting.schedules (quiet_keeps _) (fun _ _ _ h => h) fun _ _ h => h) c h)
    calm

theorem Still.call (still : Still hook? s) {c : Call} (other : c ≠ .start) :
    Still hook? (s.call quiet c).2 :=
  (still_lasting hook?).call_of_ne_start (quiet_keeps _) other
    (fun time => by
      rw [still.idle.tick]
      exact (still_lasting hook?).take s still)
    still

/-- Until a hook with a start is reached, the loop stays idle. -/
def StillUnlessStarted (hook? : Option Hook) (s : Session) : Prop :=
  Reached .start hook? s ∨ Still hook? s

theorem stillUnlessStarted_lasting (hook? : Option Hook) : Lasting (StillUnlessStarted hook?) :=
  (reached_lasting .start hook?).or (still_lasting hook?)

theorem StillUnlessStarted.keeps : Keeps hooked (StillUnlessStarted hook?) := by
  refine hooked_keeps fun s hook set h => ?_
  rcases h with ⟨_, reached⟩ | still
  -- a hook that is still set was not reached
  · simp [set] at reached
  · have own : hook? = some hook := by
      rcases still.hook with off | same
      · simp [set] at off
      · rw [← same, set]
    have unhooked := (still_lasting hook?).unhook s still
    by_cases starts : Call.start ∈ hook.calls
    · exact .inl ⟨⟨hook, own, starts⟩, callBack_hook? hook.calls rfl⟩
    · refine .inr (callBack_keeps (still_lasting hook?).answer ?_ unhooked)
      rintro c member s h
      exact h.call fun start => starts (start ▸ member)

theorem StillUnlessStarted.tick (h : StillUnlessStarted hook? s) (time : Float) :
    StillUnlessStarted hook? (s.tick hooked time).2 := by
  rcases h with reached | still
  · exact .inl (reached.call (hooked_keeps_of_calm fun _ h => h.2) (.tick time))
  · rw [still.idle.tick]
    exact .inr ((still_lasting hook?).take s still)

/-- A step in which no start is called leaves an idle loop idle, and requests nothing. -/
theorem Idle.step (idle : Idle s) {st : Step} (free : ¬ s.Calls .start st) :
    Still st.hook? (s.step st).2 := by
  have armed : Still st.hook? (s.armed st) :=
    ⟨⟨⟨idle.ordered.live, idle.ordered.waiting⟩, idle.stopped, idle.gone⟩, by simp [Session.armed],
      .inr rfl⟩
  have called (c : Call) (action : st.action = .call c) :
      StillUnlessStarted st.hook? ((s.armed st).call hooked c).2 := by
    refine (stillUnlessStarted_lasting st.hook?).call_of_ne_start StillUnlessStarted.keeps ?_
      (fun time => StillUnlessStarted.tick (.inr armed) time) (.inr armed)
    rintro rfl
    exact free (.inl action)
  rcases (stillUnlessStarted_lasting st.hook?).act StillUnlessStarted.keeps st.action called
    (.inr armed) with reached | still
  · exact absurd (.inr reached) free
  · exact still

theorem Idle.run (idle : Idle s) (steps : List Step) (free : StartFree s steps) :
    Idle (s.run steps) := by
  induction steps generalizing s with
  | nil => exact idle
  | cons st steps ih => exact ih (idle.step free.1).idle free.2

theorem Idle.inert (idle : Idle s) : s.Inert := by
  intro steps free
  have later := idle.run steps free
  refine ⟨later.isRunning, later.pending, ?_⟩
  intro st free id member
  exact Bool.noConfusion ((later.step free).silent _ member)

theorem idle_of_pending (ordered : Ordered s) (stopped : s.isRunning = false)
    (nothing : s.pending = []) : Idle s where
  ordered := ordered
  stopped := isRunning_eq_false_iff.mp stopped
  gone := pending_eq_nil_iff.mp nothing

/-- A loop is inert exactly when it does not run and no request of its map is waiting. -/
theorem inert_iff (ordered : Ordered s) :
    s.Inert ↔ s.isRunning = false ∧ s.pending = [] := by
  constructor
  · intro inert
    obtain ⟨stopped, nothing, _⟩ := inert [] trivial
    exact ⟨stopped, nothing⟩
  · rintro ⟨stopped, nothing⟩
    exact (idle_of_pending ordered stopped nothing).inert

end PositionMap.Session
