import PositionMap.Proofs.Session.Reach

/-! # What a map shows depends on its inputs alone

Of a scene, measurements change the size and nothing else, and the readings do not depend on the
size. A map on a page therefore reads like a scene without a page that is given the same inputs:
frames, the loop, the page's settings and refused events leave no trace in it.
-/

namespace PositionMap

namespace Scene

def data (s : Scene) : Scene :=
  { s with view.width := 0, view.height := 0, ratio := 1 }

variable {a b : Scene}

theorem data_fit (s : Scene) (m : Measurement) : (s.fit m).1.data = s.data := by
  unfold fit
  split <;> rfl

theorem data_hear (s : Scene) (notice : Notice) :
    (s.hear notice).1.data = (s.data.hear notice).1 := by
  cases notice <;> rfl

theorem data_hearAll (s : Scene) (notices : List Notice) :
    (s.hearAll notices).1.data = (s.data.hearAll notices).1 := by
  induction notices generalizing s with
  | nil => rfl
  | cons notice notices ih =>
      simp only [hearAll]
      rw [ih, data_hear]

/-- Inputs change the data of a scene in a way that does not depend on its size. -/
theorem data_apply (same : a.data = b.data) (input : Input) :
    (a.apply input).1.data = (b.apply input).1.data := by
  cases input with
  | size m => rw [apply, apply, data_fit, data_fit, same]
  | container measured? =>
      cases measured? with
      | none => exact same
      | some m => exact (data_fit a m).trans (same.trans (data_fit b m).symm)
  | event e => rw [apply, apply, data_hearAll, data_hearAll, same]
  | position p => exact congrArg (fun s : Scene => (s.moveTo p).1) same
  | originReset => exact congrArg (fun s : Scene => s.resetOrigin.1) same
  | scale value => exact congrArg (fun s : Scene => s.setScale value) same
  | fix fix => exact congrArg (fun s : Scene => (s.hear (.fix fix)).1) same
  | connection connected => exact congrArg (fun s : Scene => (s.setConnected connected).1) same

end Scene

def Call.reading? : Call → Option (Scene → Reply)
  | scaleLabel => some fun s => .text s.scaleLabel
  | positionLabels => some fun s => .texts s.positionLabels
  | trailLength => some fun s => .count s.trailLength
  | isConnected => some fun s => .flag s.connected
  | fixStatus => some fun s => .maybeText s.fixStatus
  | satellites => some fun s => .count s.satellites.toNat
  | _ => none

/-- The input that a call gives to the scene. An event that is refused gives none. -/
def Call.input? : Call → Option Scene.Input
  | position p => some (.position p)
  | originReset => some .originReset
  | scale value => some (.scale value)
  | connection connected => some (.connection connected)
  | event name payload => (Event.decode name payload).toOption.map .event
  | _ => none

def Action.input? : Action → Option Scene.Input
  | call c => c.input?
  | _ => none

/-- Whether the map that is there before the action is also there after it. -/
def Action.keepsMap : Action → Bool
  | create .. | release => false
  | _ => true

theorem Call.reading_data {c : Call} {reading : Scene → Reply} (reads : c.reading? = some reading)
    (s : Scene) : reading s = reading s.data := by
  cases c <;> cases reads <;> rfl

namespace Session

/-- The map is at hand, and its scene has the data of the given one. -/
structure Shows (core : Scene) (s : Session) : Prop where
  calm : s.hook? = none
  held : ∃ w r, s.widget? = some w ∧ w.leaving = false ∧ w.renderer? = some r ∧
    r.scene.data = core.data

variable {core next : Scene} {s : Session}

theorem Shows.onWidget (shows : Shows core s) {f : Widget → Widget}
    (same : ∀ w, (f w).leaving = w.leaving ∧ (f w).renderer? = w.renderer?) :
    Shows core (s.onWidget f) := by
  obtain ⟨w, r, found, here, lent, data⟩ := shows.held
  exact ⟨shows.calm, f w, r, by simp [found], (same w).1.trans here, (same w).2.trans lent, data⟩

theorem shows_looping (core : Scene) : Looping (Shows core) where
  record _ _ _ h := ⟨h.calm, h.held⟩
  breakage _ _ h := ⟨h.calm, h.held⟩
  pace _ _ h := h.onWidget fun _ => ⟨rfl, rfl⟩
  letGo _ _ h := h.onWidget fun _ => ⟨rfl, rfl⟩
  cancel _ _ h := ⟨h.calm, h.held⟩
  take _ h := ⟨h.calm, h.held⟩

theorem Shows.keeps : Keeps hooked (Shows core) :=
  hooked_keeps_of_calm fun _ h => h.calm

theorem Shows.schedules : Schedules hooked (Shows core) :=
  (shows_looping core).schedules Shows.keeps (fun _ _ _ h => ⟨h.calm, h.held⟩)
    fun _ _ h => h.onWidget fun _ => ⟨rfl, rfl⟩

/-! ## Working with the renderer -/

/-- Whatever borrows the renderer of a map at hand gives it back with the scene it came to. -/
theorem Shows.lend (shows : Shows core s) {busy : Session → Session}
    {use : Renderer → Session → Renderer × Session}
    (fixed : ∀ page w r s, Fixed page (some w) s → Fixed page (some w) (use r s).2)
    (result : ∀ r s, r.scene.data = core.data → (use r s).1.scene.data = next.data) :
    Shows next (s.lend busy use) := by
  obtain ⟨w, r, found, here, lent, data⟩ := shows.held
  have renderer : s.renderer? = some r := by simp [renderer?, found, lent]
  let v : Widget := { w with renderer? := none }
  have used := fixed s.page v r (s.onWidget fun w => { w with renderer? := none })
    ⟨shows.calm, rfl, by simp [found, v]⟩
  unfold Session.lend
  rw [renderer]
  refine ⟨used.calm, _, _, congrArg (Option.map _) used.found, here, rfl, result r _ data⟩

theorem data_fitCanvas (r : Renderer) (s : Session) :
    (s.fitCanvas hooked r).2.1.scene.data = r.scene.data := by
  rcases fitCanvas_scene hooked r s with kept | ⟨m, resized⟩
  · rw [kept]
  · rw [resized, Scene.data_fit]

theorem data_frame (r : Renderer) (s : Session) :
    (frame hooked r s).1.scene.data = r.scene.data := by
  have fitted := data_fitCanvas r s
  unfold frame
  split <;> rename_i found <;> simpa [found] using fitted

theorem Shows.lend_frame (shows : Shows core s) (busy : Session → Session) :
    Shows core (s.lend busy (frame hooked)) :=
  shows.lend (fun page w r _ h => (fixed_steady page w).frame Fixed.keeps r h)
    fun r s data => (data_frame r s).trans data

theorem Shows.resize (shows : Shows core s) : Shows core (s.resize hooked) := by
  refine shows.lend (fun page w r _ h => (fixed_steady page w).refit Fixed.keeps r h) ?_
  intro r s data
  rw [refit_fst]
  exact (data_fitCanvas r s).trans data

theorem Shows.input (shows : Shows core s) (i : Scene.Input) :
    Shows (core.apply i).1 (s.input hooked i) :=
  shows.lend (fun page w _ _ h => (fixed_steady page w).logAll Fixed.keeps _ h)
    fun _ _ data => Scene.data_apply data i

/-! ## Calls -/

def fed (core : Scene) (input? : Option Scene.Input) : Scene :=
  core.applyAll input?.toList

theorem Shows.event (shows : Shows core s) (name payload : String) :
    Shows (fed core (Call.event name payload).input?) (s.event hooked name payload).2 := by
  unfold Session.event
  cases decoded : Event.decode name payload with
  | error refusal =>
      have dropped : (Call.event name payload).input? = none := by
        simp [Call.input?, decoded, Except.toOption]
      rw [dropped]
      exact (shows_looping core).log Shows.keeps _ shows
  | ok event =>
      have given : (Call.event name payload).input? = some (.event event) := by
        simp [Call.input?, decoded, Except.toOption]
      rw [given]
      exact shows.input (.event event)

theorem Shows.callMap (shows : Shows core s) (c : Call) :
    Shows (fed core c.input?) (s.callMap hooked c).2 := by
  cases c with
  | tick time =>
      exact (shows_looping core).tick (fun _ h => h.lend_frame _) Shows.schedules time shows
  | position p => exact shows.input (.position p)
  | originReset => exact shows.input .originReset
  | scale value => exact shows.input (.scale value)
  | connection connected => exact shows.input (.connection connected)
  | event name payload => exact shows.event name payload
  | start => exact (shows_looping core).start Shows.keeps Shows.schedules shows
  | stop => exact (shows_looping core).stop Shows.keeps shows
  | resize => exact shows.resize
  | renderOnce => exact shows.lend_frame (busyCall hooked)
  | isRunning | scaleLabel | positionLabels | trailLength | isConnected | fixStatus | satellites =>
      exact shows

theorem Shows.call_eq (shows : Shows core s) (c : Call) :
    s.call hooked c = s.callMap hooked c := by
  obtain ⟨w, r, found, here, _⟩ := shows.held
  exact call_of_hasMap hooked (by simp [hasMap, found, here]) c

theorem Shows.reply (shows : Shows core s) {c : Call} {reading : Scene → Reply}
    (reads : c.reading? = some reading) : (s.call hooked c).1 = reading core := by
  obtain ⟨w, r, found, _, lent, data⟩ := shows.held
  have renderer : s.renderer? = some r := by simp [renderer?, found, lent]
  have read : (s.callMap hooked c).1 = reading r.scene := by
    cases c <;> cases reads <;> simp [Session.callMap, Session.read, renderer]
  rw [shows.call_eq, read, Call.reading_data reads, data, ← Call.reading_data reads]

/-! ## Steps -/

theorem Shows.step (shows : Shows core s) (st : Step) (alone : st.hook? = none)
    (stays : st.action.keepsMap = true) :
    Shows (fed core st.action.input?) (s.step st).2 := by
  have armed : Shows core (s.armed st) := ⟨alone, shows.held⟩
  rw [Session.step]
  cases action : st.action with
  | change c => exact ⟨armed.calm, armed.held⟩
  | load =>
      simp only [act, Session.load]
      split
      · exact armed
      · exact (shows_looping core).log Shows.keeps _ ⟨armed.calm, armed.held⟩
  | create canvas settings => simp [action, Action.keepsMap] at stays
  | release => simp [action, Action.keepsMap] at stays
  | call c =>
      rw [act, armed.call_eq]
      exact armed.callMap c

theorem Shows.run (shows : Shows core s) (steps : List Step)
    (kept : ∀ st ∈ steps, st.hook? = none ∧ st.action.keepsMap = true) :
    Shows (core.applyAll (steps.filterMap fun st => st.action.input?)) (s.run steps) := by
  induction steps generalizing s core with
  | nil => exact shows
  | cons st steps ih =>
      obtain ⟨alone, stays⟩ := kept st List.mem_cons_self
      have later := ih (shows.step st alone stays) fun st member =>
        kept st (List.mem_cons_of_mem _ member)
      cases input : st.action.input? <;> simpa [input, fed, Scene.applyAll] using later

theorem shows_create (s : Session) (canvas text : String) (breakage? : Option Canvas.Breakage)
    (made : (s.step ⟨.create canvas text, breakage?, none⟩).1 = .done) :
    ∃ settings, Settings.parse text = .ok settings ∧
      Shows (.ofSettings settings) (s.step ⟨.create canvas text, breakage?, none⟩).2 := by
  rw [step] at made ⊢
  have released : ((s.armed ⟨.create canvas text, breakage?, none⟩).release hooked).hook? = none :=
    calm_lasting.release calm_keeps rfl
  simp only [act, create] at made ⊢
  cases parsed : Settings.parse text with
  | error refusal => simp [parsed] at made
  | ok settings =>
      rw [parsed] at made
      refine ⟨settings, rfl, ?_⟩
      dsimp only at made ⊢
      split at made
      · simp at made
      · obtain ⟨ready, r, calm, _, data, mounted⟩ :=
          calm_lasting.mount_eq calm_keeps canvas settings released
        rw [mounted]
        refine ⟨calm, _, r, rfl, rfl, rfl, ?_⟩
        rcases data with plain | ⟨m, fitted⟩
        · rw [plain]
        · rw [fitted, Scene.data_fit]

/-- A map that is made and kept, on a page that does not call back, reads at any time like the scene
of its settings that was given the inputs of its calls. So do the trail, the scale, the connection
and the last fix that it holds: nothing but those inputs changes them. -/
theorem readings_of_inputs (s : Session) (canvas text : String)
    (breakage? : Option Canvas.Breakage) (steps : List Step)
    (made : (s.step ⟨.create canvas text, breakage?, none⟩).1 = .done)
    (kept : ∀ st ∈ steps, st.hook? = none ∧ st.action.keepsMap = true) :
    ∃ settings, Settings.parse text = .ok settings ∧
      let live := (s.step ⟨.create canvas text, breakage?, none⟩).2.run steps
      let core := (Scene.ofSettings settings).applyAll
        (steps.filterMap fun st => st.action.input?)
      (∀ c reading, c.reading? = some reading → ∀ breakage?,
        (live.step ⟨.call c, breakage?, none⟩).1 = reading core) ∧
      ∃ r, live.renderer? = some r ∧ r.scene.trail = core.trail ∧
        r.scene.view.scale = core.view.scale ∧ r.scene.connected = core.connected ∧
        r.scene.fix? = core.fix? := by
  obtain ⟨settings, parsed, created⟩ := shows_create s canvas text breakage? made
  have shows := created.run steps kept
  refine ⟨settings, parsed, ?_, ?_⟩
  · intro c reading reads breakage?
    have armed : Shows _ (armed _ ⟨.call c, breakage?, none⟩) := ⟨rfl, shows.held⟩
    exact armed.reply reads
  · obtain ⟨w, r, found, _, lent, data⟩ := shows.held
    have trail := congrArg Scene.trail data
    have scale := congrArg (fun scene => scene.view.scale) data
    have connected := congrArg Scene.connected data
    have fix := congrArg Scene.fix? data
    exact ⟨r, by simp [renderer?, found, lent], trail, scale, connected, fix⟩

/-- A position counts; a refused event and a frame do not. -/
theorem trailLength_of_position :
    let made := (opened framed).step ⟨.create "map" "", none, none⟩
    let steps : List Step :=
      [⟨.call (.position ⟨3, 4⟩), none, none⟩, ⟨.call (.event "gps_update" "\x7b"), none, none⟩,
        ⟨.call .start, none, none⟩, ⟨.call (.tick 16), none, none⟩]
    made.1 = .done ∧
      ((made.2.run steps).step ⟨.call .trailLength, none, none⟩).1 = .count 1 := by
  intro made steps
  have done : made.1 = .done := by decide +kernel
  obtain ⟨settings, parsed, readings, _⟩ :=
    readings_of_inputs (opened framed) "map" "" none steps done (by decide +kernel)
  refine ⟨done, (readings .trailLength _ rfl none).trans ?_⟩
  cases parsed
  decide +kernel

end Session

end PositionMap
