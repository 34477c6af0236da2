import PositionMap.Proofs.Session.Handle

/-! # Starts of a loop that runs

Between two frames a start of a running loop changes nothing. During a frame the loop has let its
handle go and does not seem to run: a start then resets the pacer and makes a request, and the frame
makes its own as well. From there on every tick brings one frame more.
-/

namespace PositionMap

/-- The call neither stops the loop nor lets time pass. -/
def Call.Plain (c : Call) : Prop :=
  c ≠ .stop ∧ c.Timeless

namespace Session

/-- At an effect of its choice the page makes the calls of its hook, once. -/
def Hooks (react : Reaction) : Prop :=
  ∀ signal s, react signal s = s ∨
    ∃ hook, s.hook? = some hook ∧ react signal s = { s with hook? := none }.callBack hook.calls

def waitingFor (owner : Nat) (page : Page) : Nat :=
  (page.queue.filter fun request => request.owner == owner).length

/-- The page grants requests, and the map is there with the given pacer, a loop that seems to run or
not, and so many requests that wait. -/
structure Counts (owner count : Nat) (pacer : Pacer) (running : Bool) (s : Session) : Prop where
  grants : s.grants
  map : ∃ w, s.widget? = some w ∧ w.leaving = false ∧ w.owner = owner ∧ w.pacer = pacer ∧
    w.running = running
  count : waitingFor owner s.page = count

variable {owner count : Nat} {pacer : Pacer} {running : Bool} {react : Reaction} {s : Session}
  {hook? : Option Hook}

theorem hooks_hooked : Hooks hooked := by
  intro signal s
  unfold hooked
  split
  · exact .inl rfl
  · rename_i hook set
    split
    · exact .inr ⟨hook, set, rfl⟩
    · exact .inl rfl

theorem waitingFor_request (owner : Nat) (page : Page) :
    waitingFor owner (page.request owner) = waitingFor owner page + 1 := by
  simp [waitingFor, Page.request]

theorem length_pending {w : Widget} (found : s.widget? = some w) :
    s.pending.length = waitingFor w.owner s.page := by
  simp [pending, found, waitingFor]

theorem Counts.onWidget (counts : Counts owner count pacer running s) {f : Widget → Widget}
    {next : Pacer} {seems : Bool}
    (same : ∀ w, (f w).leaving = w.leaving ∧ (f w).owner = w.owner ∧
      (w.pacer = pacer → (f w).pacer = next) ∧ (w.running = running → (f w).running = seems)) :
    Counts owner count next seems (s.onWidget f) := by
  obtain ⟨w, found, here, own, paced, runs⟩ := counts.map
  obtain ⟨leaving, owns, pace, run⟩ := same w
  exact ⟨counts.grants, ⟨f w, by simp [found], leaving.trans here, owns.trans own, pace paced,
    run runs⟩, counts.count⟩

theorem counts_lendable (owner count : Nat) (pacer : Pacer) (running : Bool) :
    Lendable (Counts owner count pacer running) where
  record _ _ _ h := ⟨h.grants, h.map, h.count⟩
  breakage _ _ h := ⟨h.grants, h.map, h.count⟩
  lending _ _ h := h.onWidget fun _ => ⟨rfl, rfl, id, id⟩

theorem Counts.hasMap (counts : Counts owner count pacer running s) : s.hasMap = true := by
  obtain ⟨w, found, here, _⟩ := counts.map
  simp [Session.hasMap, found, here]

theorem Counts.isRunning (counts : Counts owner count pacer running s) :
    s.isRunning = running := by
  obtain ⟨w, found, _, _, _, runs⟩ := counts.map
  simp [Session.isRunning, found, runs]

theorem Counts.pending (counts : Counts owner count pacer running s) :
    s.pending.length = count := by
  obtain ⟨w, found, _, own, _⟩ := counts.map
  rw [length_pending found, own, counts.count]

/-! ## A start -/

theorem Counts.request (counts : Counts owner count pacer running s) :
    Counts owner (count + 1) pacer running
      ({ s with page := s.page.request owner }.record (.requested s.page.nextId)) :=
  ⟨counts.grants, counts.map, by rw [page_record, waitingFor_request, counts.count]⟩

theorem Counts.hold (counts : Counts owner count pacer running s) (id : Nat) :
    Counts owner count pacer true (s.onWidget fun w => { w with handle? := some id }) :=
  counts.onWidget fun _ => ⟨rfl, rfl, fun paced => paced, fun _ => rfl⟩

theorem Counts.schedule (counts : Counts owner count pacer running s) :
    Counts owner (count + 1) pacer true (s.schedule quiet) := by
  obtain ⟨w, found, _, rfl, _⟩ := counts.map
  rw [schedule_granted quiet found counts.grants]
  exact counts.request.hold s.page.nextId

theorem Counts.start_running (counts : Counts owner count pacer true s) (react : Reaction) :
    s.start react = s := by
  obtain ⟨w, found, _, _, _, runs⟩ := counts.map
  simp [Session.start, found, runs]

theorem Counts.start (counts : Counts owner count pacer false s) :
    Counts owner (count + 1) pacer.reset true (s.start quiet) := by
  obtain ⟨w, found, _, _, _, stopped⟩ := counts.map
  have told := (counts_lendable owner count pacer false).log (quiet_keeps _)
    ⟨.info, "animation started"⟩ counts
  have reset : Counts owner count pacer.reset false
      ((s.info quiet "animation started").onWidget fun w => { w with pacer := w.pacer.reset }) :=
    told.onWidget fun _ => ⟨rfl, rfl, fun paced => by rw [paced], id⟩
  simpa [Session.start, found, stopped] using reset.schedule

/-- Plain calls leave loop and requests alone, a start of a loop that does not run aside. -/
theorem Counts.call (counts : Counts owner count pacer running s) {c : Call} (plain : c.Plain)
    (idle : running = true ∨ c ≠ .start) :
    Counts owner count pacer running (s.call quiet c).2 := by
  refine call_of_callMap ((counts_lendable _ _ _ _).callMap (quiet_keeps _) c
    (fun time tick => absurd tick (plain.2 time)) (fun start => ?_)
    (fun stop => absurd stop plain.1) counts) counts
  rcases idle with rfl | other
  · rw [counts.start_running]
    exact counts
  · exact absurd start other

theorem Counts.answer (counts : Counts owner count pacer running s) (hookReplies : Array Reply) :
    Counts owner count pacer running { s with hookReplies } :=
  ⟨counts.grants, counts.map, counts.count⟩

theorem Counts.unhook (counts : Counts owner count pacer running s) :
    Counts owner count pacer running { s with hook? := none } :=
  ⟨counts.grants, counts.map, counts.count⟩

theorem Counts.callBack (counts : Counts owner count pacer running s) {calls : List Call}
    (plain : ∀ c ∈ calls, c.Plain) (idle : running = true ∨ .start ∉ calls) :
    Counts owner count pacer running (s.callBack calls) := by
  refine callBack_keeps (fun _ replies h => h.answer replies) (fun c member s h => ?_) counts
  refine h.call (plain c member) (idle.imp id fun without => ?_)
  rintro rfl
  exact without member

/-- Of the starts among the calls of a hook the first one takes effect. -/
theorem Counts.callBack_start (counts : Counts owner count pacer false s) {calls : List Call}
    (plain : ∀ c ∈ calls, c.Plain) (starts : .start ∈ calls) :
    Counts owner (count + 1) pacer.reset true (s.callBack calls) := by
  induction calls generalizing s with
  | nil => simp at starts
  | cons c calls ih =>
      rw [callBack_cons]
      have rest : ∀ c ∈ calls, c.Plain := fun c member => plain c (List.mem_cons_of_mem _ member)
      by_cases start : c = .start
      · have started : Counts owner (count + 1) pacer.reset true (s.call quiet c).2 := by
          rw [start, call_of_hasMap quiet counts.hasMap]
          exact counts.start
        exact (started.answer _).callBack rest (.inl rfl)
      · have later : Call.start ∈ calls := by
          rcases List.mem_cons.mp starts with same | member
          · exact absurd same.symm start
          · exact member
        have kept := counts.call (plain c List.mem_cons_self) (.inr start)
        exact ih (kept.answer _) rest later

/-! ## A frame -/

/-- Until a start is reached in the hook the loop seems to run or not, and then it does and has one
request more. -/
structure Staged (hook? : Option Hook) (owner count : Nat) (pacer : Pacer) (running : Bool)
    (s : Session) : Prop where
  hook : s.hook? = none ∨ s.hook? = hook?
  before : ¬ Reached .start hook? s → Counts owner count pacer running s
  after : Reached .start hook? s → Counts owner (count + 1) pacer.reset true s

theorem staged_lendable (hook? : Option Hook) (owner count : Nat) (pacer : Pacer) (running : Bool) :
    Lendable (Staged hook? owner count pacer running) where
  record s e free h :=
    ⟨h.hook, fun early => (counts_lendable _ _ _ _).record s e free (h.before early),
      fun late => (counts_lendable _ _ _ _).record s e free (h.after late)⟩
  breakage s b h :=
    ⟨h.hook, fun early => (counts_lendable _ _ _ _).breakage s b (h.before early),
      fun late => (counts_lendable _ _ _ _).breakage s b (h.after late)⟩
  lending s r h :=
    ⟨h.hook, fun early => (counts_lendable _ _ _ _).lending s r (h.before early),
      fun late => (counts_lendable _ _ _ _).lending s r (h.after late)⟩

/-- During a frame, when the loop does not seem to run, a start in the hook takes effect. -/
theorem Staged.keeps (hooks : Hooks react) (plain : Permits Call.Plain hook?) :
    Keeps react (Staged hook? owner count pacer false) := by
  intro signal s staged
  rcases hooks signal s with same | ⟨hook, set, made⟩
  · rw [same]
    exact staged
  · have counts := (staged.before (not_reached_of_set set)).unhook
    have own : hook? = some hook := by
      rcases staged.hook with off | same
      · simp [set] at off
      · rw [← same, set]
    have off := callBack_hook? (s := { s with hook? := none }) hook.calls rfl
    have starts := reached_iff (c := .start) own off
    rw [made]
    exact ⟨.inl off, fun early => counts.callBack (plain hook own) (.inr (mt starts.mpr early)),
      fun late => counts.callBack_start (plain hook own) (starts.mp late)⟩

theorem Staged.map (staged : Staged hook? owner count pacer running s) :
    s.grants ∧ ∃ w, s.widget? = some w ∧ w.owner = owner := by
  by_cases reached : Reached .start hook? s
  · obtain ⟨w, found, _, own, _⟩ := (staged.after reached).map
    exact ⟨(staged.after reached).grants, w, found, own⟩
  · obtain ⟨w, found, _, own, _⟩ := (staged.before reached).map
    exact ⟨(staged.before reached).grants, w, found, own⟩

/-- The frame makes its own request at its end, whether or not a start has made one meanwhile, and
also if the page starts the loop when it gets to know of that request. -/
theorem Staged.schedule (hooks : Hooks react) (plain : Permits Call.Plain hook?)
    (staged : Staged hook? owner count pacer false s) :
    Staged hook? owner (count + 1) pacer true (s.schedule react) := by
  obtain ⟨granting, w, found, own⟩ := staged.map
  subst own
  have asked : Staged hook? w.owner (count + 1) pacer false
      ({ s with page := s.page.request w.owner }.record (.requested s.page.nextId)) :=
    ⟨staged.hook, fun early => (staged.before early).request,
      fun late => (staged.after late).request⟩
  have told := Staged.keeps hooks plain "requestAnimationFrame" _ asked
  rw [schedule_granted react found granting]
  exact ⟨told.hook, fun early => (told.before early).hold _, fun late => (told.after late).hold _⟩

/-- A frame that is granted to the map makes one request, or two. -/
theorem Counts.grant (hooks : Hooks react) (counts : Counts owner count pacer running s)
    (plain : Permits Call.Plain s.hook?) (time : Float) {request : Request}
    (own : request.owner = owner) :
    Staged s.hook? owner (count + 1) (pacer.offer time) true (s.grant react time request) := by
  obtain ⟨w, found, _, owns, _⟩ := counts.map
  have released : Counts owner count (pacer.offer time) false
      (s.onWidget fun w => { w with handle? := none, pacer := w.pacer.offer time }) :=
    counts.onWidget fun _ => ⟨rfl, rfl, fun paced => by rw [paced], fun _ => rfl⟩
  have staged : Staged s.hook? owner count (pacer.offer time) false
      (s.onWidget fun w => { w with handle? := none, pacer := w.pacer.offer time }) :=
    ⟨.inr rfl, fun _ => released, fun reached => absurd reached (not_reached_of_same rfl)⟩
  obtain ⟨drawn, kept, granted⟩ := (staged_lendable s.hook? owner count (pacer.offer time)
    false).grant_eq (Staged.keeps hooks plain) time found (owns.trans own.symm) staged
  rw [granted]
  exact kept.schedule hooks plain

/-! ## A tick -/

/-- So many requests wait, and one more once a start was reached in the hook. -/
structure Tally (hook? : Option Hook) (owner count : Nat) (s : Session) : Prop where
  hook : s.hook? = none ∨ s.hook? = hook?
  counts : ∃ waiting pacer, Counts owner waiting pacer true s ∧
    (¬ Reached .start hook? s → waiting = count) ∧ (Reached .start hook? s → waiting = count + 1)

theorem Staged.tally (staged : Staged hook? owner count pacer true s) :
    Tally hook? owner count s := by
  refine ⟨staged.hook, ?_⟩
  by_cases reached : Reached .start hook? s
  · exact ⟨_, _, staged.after reached, fun early => absurd reached early, fun _ => rfl⟩
  · exact ⟨_, _, staged.before reached, fun _ => rfl, fun late => absurd late reached⟩

theorem Tally.grant (hooks : Hooks react) (plain : Permits Call.Plain hook?)
    (tally : Tally hook? owner count s) (time : Float) {request : Request}
    (own : request.owner = owner) :
    Tally hook? owner (count + 1) (s.grant react time request) := by
  obtain ⟨waiting, pacer, counts, early, late⟩ := tally.counts
  rcases tally.hook with off | same
  · -- a hook that is off stays off, so that this frame makes just its own request
    have staged := counts.grant hooks (by simp [Permits, off]) time own
    have calm : (s.grant react time request).hook? = none := by simpa [off] using staged.hook
    have made := staged.before fun reached => by simp [Reached, off] at reached
    have reached : Reached .start hook? (s.grant react time request) ↔ Reached .start hook? s := by
      simp [Reached, off, calm]
    rw [← reached] at early late
    exact ⟨.inl calm, _, _, made, fun unmet => congrArg (· + 1) (early unmet),
      fun met => congrArg (· + 1) (late met)⟩
  · have staged := counts.grant hooks (same ▸ plain) time own
    rw [same, early (not_reached_of_same same)] at staged
    exact staged.tally

theorem Tally.owned (tally : Tally hook? owner count s) : Owned owner s := by
  obtain ⟨_, _, counts, _⟩ := tally.counts
  obtain ⟨w, found, _, own, _⟩ := counts.map
  exact ⟨w, found, own⟩

theorem Tally.foldl_grant (hooks : Hooks react) (plain : Permits Call.Plain hook?) (time : Float)
    (requests : List Request) (tally : Tally hook? owner count s) :
    Tally hook? owner
      (count + (requests.filter fun request => request.owner == owner).length)
      (requests.foldl (Session.grant react time) s) := by
  induction requests generalizing s count with
  | nil => exact tally
  | cons request requests ih =>
      rw [List.foldl_cons]
      by_cases own : request.owner = owner
      · have granted := ih (tally.grant hooks plain time own)
        simpa [own, Nat.add_assoc, Nat.add_comm 1] using granted
      · have ignored : s.grant react time request = s := by
          refine grant_of_foreign react time fun w found same => ?_
          obtain ⟨v, there, owns⟩ := tally.owned
          cases there.symm.trans found
          exact own (same.trans owns)
        rw [ignored]
        simpa [own] using ih tally

/-- Of the requests that are due only the map's count. If there is one, the tick comes down to its
frame. -/
theorem foldl_grant_of_one {time : Float} {requests : List Request}
    (one : (requests.filter fun request => request.owner == owner).length = 1)
    (owned : Owned owner s)
    (granted : ∀ request, request.owner = owner → Owned owner (s.grant react time request)) :
    ∃ request, request.owner = owner ∧
      requests.foldl (grant react time) s = s.grant react time request := by
  have foreign {s : Session} (owned : Owned owner s) {requests : List Request}
      (none : ∀ request ∈ requests, request.owner ≠ owner) :
      requests.foldl (grant react time) s = s := by
    obtain ⟨v, there, owns⟩ := owned
    refine foldl_grant_of_foreign react time requests fun w found request member => ?_
    cases there.symm.trans found
    exact owns ▸ none request member
  induction requests with
  | nil => simp at one
  | cons request requests ih =>
      by_cases own : request.owner = owner
      · refine ⟨request, own, ?_⟩
        have rest : ∀ request ∈ requests, request.owner ≠ owner := by
          simpa [own, List.filter_eq_nil_iff] using one
        rw [List.foldl_cons, foreign (granted request own) rest]
      · have skipped : [request].foldl (Session.grant react time) s = s :=
          foreign owned (by simpa using own)
        rw [← List.singleton_append, List.foldl_append, skipped]
        exact ih (by simpa [own] using one)

/-- A start of a loop that runs changes nothing between two frames. In a tick, in which the page
makes the calls of its hook at any effect of the frame, the loop goes on, and it has as many
requests as before as long as no start is called. If one is called there is one request more, and
the pacer is reset. -/
theorem pending_of_start_in_frame (live : s.hasMap = true) (running : s.isRunning = true)
    (granting : s.grants) (hooks : Hooks react) (st : Step)
    (plain : Permits Call.Plain st.hook?) :
    (s.armed st).act react (.call .start) = (.done, s.armed st) ∧
    ∀ time,
      let later := ((s.armed st).act react (.call (.tick time))).2
      let started := Reached .start st.hook? later
      later.isRunning = true ∧
      (¬ started → later.pending.length = s.pending.length) ∧
      (started → later.pending.length = s.pending.length + 1) ∧
      (s.pending.length = 1 → ∃ w v, s.widget? = some w ∧ later.widget? = some v ∧
        (¬ started → v.pacer = w.pacer.offer time) ∧
        (started → v.pacer = (w.pacer.offer time).reset)) := by
  cases found : s.widget? with
  | none => simp [hasMap, found] at live
  | some w =>
      have here : w.leaving = false := by simpa [hasMap, found] using live
      have runs : w.running = true := by simpa [Session.isRunning, found] using running
      let taken : Session := { s.armed st with page := { s.page with queue := [] } }
      have counts : Counts w.owner 0 w.pacer true taken :=
        ⟨granting, ⟨w, found, here, rfl, rfl, runs⟩, rfl⟩
      refine ⟨?_, fun time => ?_⟩
      · have armed : (s.armed st).hasMap = true := live
        have there : (s.armed st).widget? = some w := found
        simp [act, call_of_hasMap react armed, callMap, Session.start, there, runs]
      · intro later started
        have ticked : later = s.page.queue.foldl (grant react time) taken := rfl
        have begun : Tally st.hook? w.owner 0 taken :=
          ⟨.inr rfl, 0, w.pacer, counts, fun _ => rfl,
            fun reached => absurd reached (not_reached_of_same rfl)⟩
        obtain ⟨waiting, pacer, kept, early, late⟩ :=
          (begun.foldl_grant hooks plain time s.page.queue).counts
        rw [← ticked] at kept early late
        have before : s.pending.length =
            (s.page.queue.filter fun request => request.owner == w.owner).length :=
          length_pending found
        refine ⟨kept.isRunning, fun unmet => ?_, fun met => ?_, fun one => ?_⟩
        · rw [kept.pending, early unmet, before, Nat.zero_add]
        · rw [kept.pending, late met, before, Nat.zero_add]
        · obtain ⟨request, own, single⟩ := foldl_grant_of_one (before ▸ one) begun.owned
            fun request own => (counts.grant hooks plain time own).map.2
          have staged : Staged st.hook? w.owner 1 (w.pacer.offer time) true later := by
            rw [ticked, single]
            exact counts.grant hooks plain time own
          by_cases met : started
          · obtain ⟨v, there, _, _, paced, _⟩ := (staged.after met).map
            exact ⟨w, v, rfl, there, fun unmet => absurd met unmet, fun _ => paced⟩
          · obtain ⟨v, there, _, _, paced, _⟩ := (staged.before met).map
            exact ⟨w, v, rfl, there, fun _ => paced, fun reached => absurd reached met⟩

theorem pending_of_start_in_looped :
    let s := (opened framed).run looped
    let inFrame : Step := ⟨.call (.tick 32), none, some ⟨"getBoundingClientRect", [.start]⟩⟩
    s.hasMap = true ∧ s.isRunning = true ∧ s.grants ∧ Permits Call.Plain inFrame.hook? ∧
      (s.step inFrame).2.pending.length = s.pending.length + 1 := by
  intro s inFrame
  have live : s.hasMap = true := by decide +kernel
  have running : s.isRunning = true := by decide +kernel
  have granting : s.grants := ⟨by decide +kernel, by decide +kernel⟩
  have plain : Permits Call.Plain inFrame.hook? := by
    simp [inFrame, Permits, Call.Plain, Call.Timeless]
  have reached : Reached .start inFrame.hook? (s.step inFrame).2 :=
    ⟨⟨_, rfl, List.mem_singleton_self _⟩, by decide +kernel⟩
  have ticked := (pending_of_start_in_frame live running granting hooks_hooked inFrame plain).2 32
  exact ⟨live, running, granting, plain, ticked.2.2.1 reached⟩

/-- A start while a frame measures the canvas of a map with one request leaves two, and the next
tick brings two frames of the map. Without that start it is one at a time, and the pacer is not
reset. -/
theorem start_in_frame_doubles :
    let s := (opened framed).run looped
    let tick (time : Float) (hook? : Option Hook) : Step := ⟨.call (.tick time), none, hook?⟩
    let started := (s.step (tick 32 (some ⟨"getBoundingClientRect", [.start]⟩))).2
    let plain := (s.step (tick 32 none)).2
    let last? (s : Session) : Option Float := s.widget?.bind fun w => w.pacer.last?
    (s.isRunning = true ∧ s.grants ∧ s.pending.length = 1) ∧
      (started.pending.length = 2 ∧ (last? started).isNone = true ∧
        (started.step (tick 48 none)).1 = .count 2) ∧
      (plain.pending.length = 1 ∧ (last? plain).isSome = true ∧
        (plain.step (tick 48 none)).1 = .count 1) := by
  refine ⟨⟨?_, ⟨?_, ?_⟩, ?_⟩, ⟨?_, ?_, ?_⟩, ?_, ?_, ?_⟩ <;> decide +kernel

end Session

end PositionMap
