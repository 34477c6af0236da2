import PositionMap.Proofs.Session.Reentry
import PositionMap.Proofs.Session.Stopping

/-! # The handle of a running loop

A loop takes itself to be running as long as the map holds a handle. That it is not mistaken is an
invariant of all sessions in which the page lets no time pass from inside of an effect. It has to
hold in the middle of a call, too, when a request was made whose handle is not stored yet, or when a
handle was let go whose request is still waiting. `Follows` says what may have become of a session
since then: handles are new ones or the old one, and of the requests only that of the old handle may
be gone.
-/

namespace PositionMap

def Call.Timeless (c : Call) : Prop :=
  ∀ time, c ≠ .tick time

theorem Call.timeless_or_tick (c : Call) : c.Timeless ∨ ∃ time, c = .tick time := by
  cases c <;> simp [Timeless]

namespace Session

/-- The ids of the requests that wait were given out, and the handle that the map holds is the id of
a request of its own that waits. -/
structure Backed (s : Session) : Prop where
  given : ∀ request ∈ s.page.queue, request.id < s.page.nextId
  waiting : ∀ w id, s.widget? = some w → w.handle? = some id → ⟨id, w.owner⟩ ∈ s.page.queue

def owner? (s : Session) : Option Nat :=
  s.widget?.map Widget.owner

/-- What becomes of a session in a stretch of calls. -/
structure Follows (base s : Session) : Prop where
  permits : Permits Call.Timeless s.hook?
  backed : Backed s
  owner : s.owner? = base.owner?
  later : base.page.nextId ≤ s.page.nextId
  handle : ∀ id, s.handle? = some id → base.handle? = some id ∨ base.page.nextId ≤ id
  kept : ∀ request ∈ base.page.queue, base.handle? ≠ some request.id → request ∈ s.page.queue

def Faithful (react : Reaction) : Prop :=
  ∀ base, Backed base → Keeps react (Follows base)

variable {base s : Session} {react : Reaction}

theorem handle?_eq_some_iff {id : Nat} :
    s.handle? = some id ↔ ∃ w, s.widget? = some w ∧ w.handle? = some id :=
  Option.bind_eq_some_iff

theorem handle?_onWidget {f : Widget → Widget} (same : ∀ w, (f w).handle? = w.handle?) :
    (s.onWidget f).handle? = s.handle? := by
  cases found : s.widget? <;> simp [handle?, found, same]

theorem handle?_letGo (f : Pacer → Pacer) :
    (s.onWidget fun w => { w with handle? := none, pacer := f w.pacer }).handle? = none := by
  cases found : s.widget? <;> simp [handle?, found]

theorem owner?_onWidget (f : Widget → Widget) (same : ∀ w, (f w).owner = w.owner) :
    (s.onWidget f).owner? = s.owner? := by
  cases found : s.widget? <;> simp [owner?, found, same]

theorem Backed.lt_nextId (backed : Backed s) {id : Nat} (held : s.handle? = some id) :
    id < s.page.nextId := by
  obtain ⟨w, found, handle⟩ := handle?_eq_some_iff.mp held
  exact backed.given _ (backed.waiting w id found handle)

theorem Follows.refl (permits : Permits Call.Timeless s.hook?) (backed : Backed s) :
    Follows s s :=
  ⟨permits, backed, rfl, Nat.le_refl _, fun _ => .inl, fun _ member _ => member⟩

theorem Follows.onWidget (follows : Follows base s) {f : Widget → Widget}
    (same : ∀ w, (f w).owner = w.owner ∧ (f w).handle? = w.handle?) :
    Follows base (s.onWidget f) where
  permits := follows.permits
  backed := by
    refine ⟨follows.backed.given, fun w id found held => ?_⟩
    obtain ⟨v, there, rfl⟩ := Option.map_eq_some_iff.mp found
    rw [(same v).1]
    exact follows.backed.waiting v id there ((same v).2.symm.trans held)
  owner := (owner?_onWidget f fun w => (same w).1).trans follows.owner
  later := follows.later
  handle id held := by
    rw [handle?_onWidget fun w => (same w).2] at held
    exact follows.handle id held
  kept := follows.kept

theorem Follows.of_same {later : Session} (follows : Follows base s) (page : later.page = s.page)
    (widget : later.widget? = s.widget?) (hook : later.hook? = none ∨ later.hook? = s.hook?) :
    Follows base later where
  permits := by
    rcases hook with off | same
    · simp [Permits, off]
    · rw [same]
      exact follows.permits
  backed := by
    refine ⟨?_, ?_⟩
    · rw [page]
      exact follows.backed.given
    · rw [page, widget]
      exact follows.backed.waiting
  owner := by rw [owner?, widget]; exact follows.owner
  later := by rw [page]; exact follows.later
  handle := by rw [handle?, widget]; exact follows.handle
  kept := by rw [page]; exact follows.kept

theorem follows_lendable (base : Session) : Lendable (Follows base) where
  record _ _ _ h := h.of_same rfl rfl (.inr rfl)
  breakage _ _ h := h.of_same rfl rfl (.inr rfl)
  lending _ _ h := h.onWidget fun _ => ⟨rfl, rfl⟩

/-! ## Making requests and taking them back -/

/-- Without a handle nothing needs to wait. -/
theorem backed_of_handle? (given : ∀ request ∈ s.page.queue, request.id < s.page.nextId)
    (free : s.handle? = none) : Backed s := by
  refine ⟨given, fun w id found held => ?_⟩
  simp [handle?, found, held] at free

theorem Follows.letGo (follows : Follows base s) (f : Pacer → Pacer) :
    Follows base (s.onWidget fun w => { w with handle? := none, pacer := f w.pacer }) where
  permits := follows.permits
  backed := backed_of_handle? follows.backed.given (handle?_letGo f)
  owner := by
    rw [owner?_onWidget]
    · exact follows.owner
    · exact fun _ => rfl
  later := follows.later
  handle id held := by simp [handle?_letGo] at held
  kept := follows.kept

theorem Follows.request (follows : Follows base s) (owner : Nat) :
    Follows base { s with page := s.page.request owner } where
  permits := follows.permits
  backed := by
    refine ⟨fun request member => ?_, fun w id found held => ?_⟩
    · rcases List.mem_append.mp member with before | new
      · exact Nat.lt_succ_of_lt (follows.backed.given request before)
      · cases List.mem_singleton.mp new
        exact Nat.lt_succ_self s.page.nextId
    · exact List.mem_append_left _ (follows.backed.waiting w id found held)
  owner := follows.owner
  later := Nat.le_trans follows.later (Nat.le_succ _)
  handle := follows.handle
  kept request member other := List.mem_append_left _ (follows.kept request member other)

/-- The map takes the handle of a request of its own that waits and was made in the stretch. -/
theorem Follows.hold (follows : Follows base s) (request : Request)
    (waits : request ∈ s.page.queue) (own : s.owner? = some request.owner)
    (new : base.page.nextId ≤ request.id) :
    Follows base (s.onWidget fun w => { w with handle? := some request.id }) where
  permits := follows.permits
  backed := by
    refine ⟨follows.backed.given, fun w id found held => ?_⟩
    obtain ⟨v, there, rfl⟩ := Option.map_eq_some_iff.mp found
    obtain rfl : request.id = id := by simpa using held
    have owner : v.owner = request.owner := by simpa [owner?, there] using own
    dsimp only
    rw [owner]
    exact waits
  owner := by
    rw [owner?_onWidget]
    · exact follows.owner
    · exact fun _ => rfl
  later := follows.later
  handle id held := by
    obtain ⟨w, found, handle⟩ := handle?_eq_some_iff.mp held
    obtain ⟨v, _, rfl⟩ := Option.map_eq_some_iff.mp found
    obtain rfl : request.id = id := by simpa using handle
    exact .inr new
  kept := follows.kept

/-- The request that was made is still there when its handle is stored, whatever the page did when
it got to know of it: nobody else had the handle. -/
theorem Follows.schedule (faithful : Faithful react) (backed : Backed base)
    (follows : Follows base s) : Follows base (s.schedule react) := by
  by_cases granting : s.grants
  · cases found : s.widget? with
    | none => simpa [Session.schedule, found] using follows
    | some w =>
        let asked : Session := { s with page := s.page.request w.owner }
        have made : Follows base asked := follows.request w.owner
        have told : Follows base (asked.emit react (.requested s.page.nextId)) :=
          faithful base backed _ _ (made.of_same rfl rfl (.inr rfl))
        have since : Follows asked (asked.emit react (.requested s.page.nextId)) :=
          faithful asked made.backed _ _
            ((Follows.refl made.permits made.backed).of_same rfl rfl (.inr rfl))
        rw [schedule_granted react found granting]
        refine told.hold ⟨s.page.nextId, w.owner⟩ (since.kept _ ?_ ?_) ?_ follows.later
        · exact List.mem_append_right _ (List.mem_singleton_self _)
        · exact fun held => absurd (follows.backed.lt_nextId held) (Nat.lt_irrefl _)
        · exact since.owner.trans (congrArg (Option.map Widget.owner) found)
  · exact (follows_lendable base).schedule_denied (faithful base backed) granting follows

theorem Follows.start (faithful : Faithful react) (backed : Backed base)
    (follows : Follows base s) : Follows base (s.start react) := by
  have lendable := follows_lendable base
  unfold Session.start
  split
  · exact follows
  · split
    · exact follows
    · have told := lendable.log (faithful base backed) ⟨.info, "animation started"⟩ follows
      exact (told.onWidget (f := fun w => { w with pacer := w.pacer.reset })
        fun _ => ⟨rfl, rfl⟩).schedule faithful backed

/-- The request that is taken back is not that of a handle which the map got meanwhile. -/
theorem Follows.cancelRequest (faithful : Faithful react) (backed : Backed base)
    (follows : Follows base s) {id : Nat} (free : s.handle? = none) (given : id < s.page.nextId)
    (old : base.handle? = some id ∨ base.page.nextId ≤ id) :
    Follows base (s.cancelRequest react id) := by
  have told : Follows base (s.emit react (.cancelled id)) :=
    faithful base backed _ _ (follows.of_same rfl rfl (.inr rfl))
  have since : Follows s (s.emit react (.cancelled id)) :=
    faithful s follows.backed _ _
      ((Follows.refl follows.permits follows.backed).of_same rfl rfl (.inr rfl))
  have other : (s.emit react (.cancelled id)).handle? ≠ some id := by
    intro held
    rcases since.handle id held with same | new
    · simp [free] at same
    · exact absurd given (Nat.not_lt.mpr new)
  unfold Session.cancelRequest
  dsimp only
  split
  · exact (follows_lendable base).log (faithful base backed) _ told
  · refine ⟨told.permits, ⟨?_, ?_⟩, told.owner, told.later, told.handle, ?_⟩
    · exact fun request member => told.backed.given request (List.mem_filter.mp member).1
    · intro w held found handle
      have waits := told.backed.waiting w held found handle
      refine List.mem_filter.mpr ⟨waits, bne_iff_ne.mpr ?_⟩
      rintro rfl
      exact other (handle?_eq_some_iff.mpr ⟨w, found, handle⟩)
    · intro request member mine
      refine List.mem_filter.mpr ⟨told.kept request member mine, bne_iff_ne.mpr ?_⟩
      rintro rfl
      rcases old with same | new
      · exact mine same
      · exact absurd (backed.given request member) (Nat.not_lt.mpr new)

theorem Follows.stop (faithful : Faithful react) (backed : Backed base)
    (follows : Follows base s) : Follows base (s.stop react) := by
  unfold Session.stop
  split
  · exact follows
  · rename_i id held
    have released := follows.letGo fun pacer => pacer
    refine (follows_lendable base).log (faithful base backed) _ ?_
    split
    · exact released.cancelRequest faithful backed (handle?_letGo fun pacer => pacer)
        (follows.backed.lt_nextId held) (follows.handle id held)
    · exact released

theorem Follows.call (faithful : Faithful react) (backed : Backed base)
    (follows : Follows base s) {c : Call} (timeless : c.Timeless) :
    Follows base (s.call react c).2 :=
  call_of_callMap ((follows_lendable base).callMap (faithful base backed) c
    (fun time tick => absurd tick (timeless time)) (fun _ => follows.start faithful backed)
    (fun _ => follows.stop faithful backed) follows) follows

theorem CallsBack.faithful (back : CallsBack Call.Timeless react) : Faithful react := by
  induction back with
  | quiet => exact fun base _ => quiet_keeps (Follows base)
  | calling inner deeper makes ih =>
      intro base backed signal s follows₀
      obtain ⟨hook?, calls, taken, permitted, made⟩ := makes signal s
      rw [made]
      refine callEach_keeps (fun _ _ h => h.of_same rfl rfl (.inr rfl)) ?_
        (follows₀.of_same rfl rfl taken)
      intro c member s follows
      exact follows.call (ih signal _) backed (permitted follows₀.permits c member)

/-! ## Frames -/

/-- In the middle of a tick the handle may be that of a request which was taken from the queue. -/
structure Ticking (owner : Nat) (s : Session) : Prop where
  given : ∀ request ∈ s.page.queue, request.id < s.page.nextId
  permits : Permits Call.Timeless s.hook?
  owned : Owned owner s

/-- A frame of the map lets the handle go and is a stretch of calls from there. -/
theorem Ticking.grant {owner : Nat} (faithful : Faithful react) (ticking : Ticking owner s)
    (time : Float) {request : Request} (own : request.owner = owner) :
    Backed (s.grant react time request) ∧ Ticking owner (s.grant react time request) := by
  obtain ⟨w, found, owns⟩ := ticking.owned
  let released := s.onWidget fun w => { w with handle? := none, pacer := w.pacer.offer time }
  have backed : Backed released :=
    backed_of_handle? ticking.given (handle?_letGo fun pacer => pacer.offer time)
  obtain ⟨later, follows, granted⟩ := (follows_lendable released).grant_eq
    (faithful released backed) time found (owns.trans own.symm)
    (Follows.refl ticking.permits backed)
  have after := follows.schedule faithful backed
  rw [granted]
  refine ⟨after.backed, after.backed.given, after.permits, ?_⟩
  refine Option.map_eq_some_iff.mp (after.owner.trans ?_)
  simp [owner?, released, found, owns]

theorem Backed.tick (faithful : Faithful react) (backed : Backed s)
    (permits : Permits Call.Timeless s.hook?) (time : Float) :
    Backed (s.tick react time).2 := by
  let taken : Session := { s with page := { s.page with queue := [] } }
  have given : ∀ request ∈ taken.page.queue, request.id < taken.page.nextId := by simp [taken]
  by_cases due : ∃ w, s.widget? = some w ∧ ∃ request ∈ s.page.queue, request.owner = w.owner
  · obtain ⟨w, found, due⟩ := due
    exact (foldl_grant_reaches (P := Ticking w.owner)
      (Q := fun s => Backed s ∧ Ticking w.owner s) (fun _ h => h.2) (fun _ h => h.owned)
      (fun _ _ own ticking => ticking.grant faithful time own) s.page.queue
      (.inr ⟨⟨given, permits, w, found, rfl⟩, due⟩)).1
  · have foreign : ∀ w, s.widget? = some w → ∀ request ∈ s.page.queue, request.owner ≠ w.owner :=
      fun w found request member own => due ⟨w, found, request, member, own⟩
    have free : taken.handle? = none := by
      refine Option.eq_none_iff_forall_ne_some.mpr fun id held => ?_
      obtain ⟨w, found, handle⟩ := handle?_eq_some_iff.mp held
      exact foreign w found _ (backed.waiting w id found handle) rfl
    have ignored : (s.tick react time).2 = taken :=
      foldl_grant_of_foreign (s := taken) react time s.page.queue foreign
    rw [ignored]
    exact backed_of_handle? given free

/-! ## Steps -/

theorem Backed.change (backed : Backed s) (c : Page.Change) :
    Backed { s with page := s.page.change c } := by
  refine ⟨?_, ?_⟩
  · simpa only [queue_change, nextId_change] using backed.given
  · simpa only [queue_change] using backed.waiting

theorem Backed.release (faithful : Faithful react) (backed : Backed s)
    (permits : Permits Call.Timeless s.hook?) :
    Backed (s.release react) ∧ Permits Call.Timeless (s.release react).hook? := by
  have leaving : Follows s (s.onWidget fun w => { w with leaving := true }) :=
    (Follows.refl permits backed).onWidget fun _ => ⟨rfl, rfl⟩
  have stopped := leaving.stop faithful backed
  exact ⟨backed_of_handle? stopped.backed.given rfl, stopped.permits⟩

theorem Backed.create (faithful : Faithful react) (backed : Backed s)
    (permits : Permits Call.Timeless s.hook?) (canvas settings : String) :
    Backed (s.create react canvas settings).2 := by
  unfold Session.create
  split
  · exact backed
  · rename_i accepted _
    split
    · exact backed
    · obtain ⟨ready, r, follows, _, _, mounted⟩ := (follows_lendable s).mount_eq (faithful s backed)
        canvas accepted (Follows.refl permits backed)
      rw [mounted]
      exact backed_of_handle? follows.backed.given rfl

theorem Backed.act (faithful : Faithful react) (backed : Backed s)
    (permits : Permits Call.Timeless s.hook?) (action : Action) :
    Backed (s.act react action).2 := by
  have follows := Follows.refl permits backed
  have shown : Follows s { s with logging := true } := follows.of_same rfl rfl (.inr rfl)
  cases action with
  | change c => exact backed.change c
  | load =>
      simp only [Session.act, Session.load]
      split
      · exact backed
      · exact ((follows_lendable s).log (faithful s backed) _ shown).backed
  | create canvas settings =>
      obtain ⟨released, permitted⟩ := backed.release faithful permits
      exact released.create faithful permitted canvas settings
  | release => exact (backed.release faithful permits).1
  | call c =>
      rcases c.timeless_or_tick with timeless | ⟨time, rfl⟩
      · exact (follows.call faithful backed timeless).backed
      · exact backed.tick faithful permits time

/-- The sessions that a page can get to. At any effect of a step it may call the map back, and at
the effects of these calls again, but it lets no time pass meanwhile. -/
inductive Reachable : Session → Prop
  | opened (c : Page.Change) : Reachable (opened c)
  | act {s : Session} (st : Step) {react : Reaction} (before : Reachable s)
      (permits : Permits Call.Timeless st.hook?) (back : CallsBack Call.Timeless react) :
      Reachable ((s.armed st).act react st.action).2

theorem Reachable.backed (reachable : Reachable s) : Backed s := by
  induction reachable with
  | opened c =>
      have empty : (blank Page.blank).page.queue = [] := rfl
      exact (backed_of_handle? (s := blank Page.blank) (by simp [empty]) rfl).change c
  | act st before permits back ih =>
      have armed : Backed (armed _ st) := ⟨ih.given, ih.waiting⟩
      exact armed.act back.faithful permits st.action

/-- Steps with hooks get to reachable sessions. -/
theorem Reachable.run (reachable : Reachable s) (steps : List Step)
    (permits : ∀ st ∈ steps, Permits Call.Timeless st.hook?) : Reachable (s.run steps) := by
  induction steps generalizing s with
  | nil => exact reachable
  | cons st steps ih =>
      refine ih (.act st reachable (permits st List.mem_cons_self) (callsBack_hooked _)) ?_
      exact fun later member => permits later (List.mem_cons_of_mem _ member)

/-- A frame of the loop: it is offered to the pacer, drawn if that admits it, and followed by the
next request. -/
def loopTurn (react : Reaction) (time : Float) (pacer : Pacer) (s : Session) : Session :=
  let s := s.onWidget fun w => { w with handle? := none, pacer := pacer.offer time }
  let s := if pacer.admits time then s.loopFrame react else s
  s.schedule react

theorem grant_of_own (react : Reaction) (time : Float) {request : Request} {w : Widget}
    (found : s.widget? = some w) (own : request.owner = w.owner) :
    s.grant react time request = s.loopTurn react time w.pacer := by
  have offered : (s.onWidget fun v => { v with handle? := none, pacer := v.pacer.offer time }) =
      s.onWidget fun v => { v with handle? := none, pacer := w.pacer.offer time } := by
    simp [onWidget, found]
  simp [Session.grant, grantBy, loopTurn, found, own, offered, loopFrame]

/-- As soon as a request of the map is due, its frame is run, and the map is as it was until then.
-/
theorem foldl_grant_of_due (react : Reaction) (time : Float) {w : Widget}
    (found : s.widget? = some w) {requests : List Request}
    (due : ∃ request ∈ requests, request.owner = w.owner) :
    ∃ after : List Request, requests.foldl (grant react time) s =
      after.foldl (grant react time) (s.loopTurn react time w.pacer) := by
  induction requests with
  | nil =>
      obtain ⟨request, member, _⟩ := due
      simp at member
  | cons request requests ih =>
      by_cases own : request.owner = w.owner
      · exact ⟨requests, by rw [List.foldl_cons, grant_of_own react time found own]⟩
      · have ignored : s.grant react time request = s := by
          refine grant_of_foreign react time fun v there same => ?_
          cases found.symm.trans there
          exact own same
        rw [List.foldl_cons, ignored]
        obtain ⟨other, member, owns⟩ := due
        rcases List.mem_cons.mp member with rfl | later
        · exact absurd owns own
        · exact ih ⟨other, later, owns⟩

/-- In whatever session a page gets to, the handle of a running loop is the id of a request of the
map that waits. So the next tick begins with a frame of the map, and a start, which is ignored,
leaves a loop that goes on by itself. -/
theorem handle_waits (reachable : Reachable s) (running : s.isRunning = true) :
    ∃ w id, s.widget? = some w ∧ w.handle? = some id ∧ ⟨id, w.owner⟩ ∈ s.page.queue ∧
      ∀ (st : Step) (react : Reaction),
        ((s.armed st).act react (.call .start)).2 = s.armed st ∧
        ∀ time, ∃ after : List Request,
          ((s.armed st).act react (.call (.tick time))).2 =
            after.foldl (grant react time)
              (({ s.armed st with page := { s.page with queue := [] } } : Session).loopTurn react
                time w.pacer) := by
  obtain ⟨w, id, found, held⟩ := isRunning_iff.mp running
  have waits := reachable.backed.waiting w id found held
  refine ⟨w, id, found, held, waits, fun st react => ⟨?_, fun time => ?_⟩⟩
  · refine call_of_callMap (P := fun later => later = s.armed st) ?_ rfl
    have there : (s.armed st).widget? = some w := found
    simp [callMap, Session.start, there, Widget.running, held]
  · exact foldl_grant_of_due (s := { s.armed st with page := { s.page with queue := [] } }) react
      time found ⟨_, waits, rfl⟩

/-- In a frame the page starts the loop and stops it again before the handle of that frame's own
request is stored. -/
theorem handle_waits_of_overlap :
    let s := (opened framed).run
      (looped ++ [⟨.call (.tick 32), none, some ⟨"requestAnimationFrame", [.start, .stop]⟩⟩])
    Reachable s ∧ s.isRunning = true ∧
      ∃ w id, s.widget? = some w ∧ w.handle? = some id ∧ ⟨id, w.owner⟩ ∈ s.page.queue := by
  intro s
  have reachable : Reachable s :=
    (Reachable.opened framed).run _ (by simp [looped, Permits, Call.Timeless])
  have running : s.isRunning = true := by decide +kernel
  obtain ⟨w, id, found, held, waits, _⟩ := handle_waits reachable running
  exact ⟨reachable, running, w, id, found, held, waits⟩

end Session

end PositionMap
