import PositionMap.Proofs.Session.Handle
import PositionMap.Proofs.Session.Sizing

/-! # The canvas follows its container

A canvas is as large as it was measured last. Which steps measure it, and that none forgets to, is
told by what happened to the canvas in them.
-/

namespace PositionMap.Session

variable {m? : Option Measurement} {canvas : String} {past : List Mark} {react : Reaction}
  {s : Session}

/-! ## Steps -/

/-- What happened to the canvas in a step, as a page that takes notes tells it. -/
def stepMarks (canvas : String) (s : Session) (st : Step) : List Mark :=
  (s.notedStep st).2.marks (s.page.measured? canvas)

/-- The map holds the renderer of the canvas, and the scene has the size of all that happened. -/
structure Kept (canvas : String) (past : List Mark) (s : Session) : Prop where
  numbered : 0 < s.page.nextId
  holds : ∃ r, s.renderer? = some r ∧ r.canvas = canvas ∧
    r.scene.size = Measurement.start.held past ∧ 1 ≤ r.scene.ratio

theorem Kept.armed (kept : Kept canvas past s) (st : Step) :
    Home (s.page.measured? canvas) canvas past [] (s.armed st) := by
  obtain ⟨r, held, own, size, ratio⟩ := kept.holds
  exact ⟨⟨kept.numbered, rfl⟩, r, [], held, own, rfl, .nil, by rwa [List.append_nil], ratio⟩

theorem Noted.kept {st : Step} (noted : Noted s st) (kept : Kept canvas past (s.notedStep st).2) :
    Kept canvas past (s.step st).2 := by
  refine ⟨by rw [← noted.page]; exact kept.numbered, ?_⟩
  rw [renderer?, ← noted.widget]
  exact kept.holds

theorem Home.kept (home : Home m? canvas past [] s) :
    Fits (Measurement.start.latest past) (s.marks m?) ∧ Kept canvas (past ++ s.marks m?) s := by
  obtain ⟨r, new, held, own, marked, fits, size, ratio⟩ := home.holds
  rw [marked, List.nil_append]
  exact ⟨fits, home.numbered, r, held, own, size, ratio⟩

theorem Kept.step (kept : Kept canvas past s) {st : Step} (stays : st.action.keepsMap = true) :
    Fits (Measurement.start.latest past) (s.stepMarks canvas st) ∧
      Kept canvas (past ++ s.stepMarks canvas st) (s.step st).2 := by
  have noted := noted_step kept.numbered st
  have armed := kept.armed st
  have notes := notes_noting (s.page.measured? canvas) canvas
  suffices Fits (Measurement.start.latest past) (s.stepMarks canvas st) ∧
      Kept canvas (past ++ s.stepMarks canvas st) (s.notedStep st).2 from
    ⟨this.1, noted.kept this.2⟩
  unfold stepMarks notedStep
  cases action : st.action with
  | change c =>
      refine ⟨.nil, ?_, ?_⟩
      · simpa [act, nextId_change, Session.armed] using kept.numbered
      · simpa [act, Session.marks, Session.armed, renderer?] using kept.holds
  | load =>
      refine Home.kept ?_
      simp only [act, Session.load]
      split
      · exact armed
      · exact Home.log (s := { s.armed st with logging := true }) notes
          ⟨⟨armed.numbered, armed.page⟩, armed.holds⟩ _
  | call c => exact (armed.call notes c).kept
  | create canvas text => simp [action, Action.keepsMap] at stays
  | release => simp [action, Action.keepsMap] at stays

theorem onPage_enduring (m? : Option Measurement) (canvas : String) :
    Enduring (OnPage m? canvas) where
  record _ _ _ h := ⟨h.numbered, h.page⟩
  breakage _ _ h := ⟨h.numbered, h.page⟩
  lending _ _ h := ⟨h.numbered, h.page⟩
  pace _ _ h := ⟨h.numbered, h.page⟩
  letGo _ _ h := ⟨h.numbered, h.page⟩
  cancel _ _ h := ⟨h.numbered, h.page⟩
  take _ h := ⟨h.numbered, h.page⟩
  unhook _ h := ⟨h.numbered, h.page⟩
  answer _ _ h := ⟨h.numbered, h.page⟩

theorem OnPage.schedules (keeps : Keeps react (OnPage m? canvas)) :
    Schedules react (OnPage m? canvas) :=
  (onPage_enduring m? canvas).schedules keeps (fun _ _ _ h => ⟨Nat.succ_pos _, h.page⟩)
    fun _ _ h => ⟨h.numbered, h.page⟩

theorem OnPage.noting (m? : Option Measurement) (canvas : String) :
    Keeps noting (OnPage m? canvas) := by
  have note (s : Session) (h : OnPage m? canvas s) : OnPage m? canvas (s.record .note) :=
    ⟨h.numbered, h.page⟩
  exact (onPage_enduring m? canvas).noting note (OnPage.schedules (noted_keeps note))

/-- Whatever happened to an earlier map while it was given up, the canvas of a new map is fitted to
its container. -/
theorem kept_create (numbered : 0 < s.page.nextId) {canvas text : String} {st : Step}
    (create : st.action = .create canvas text) (made : (s.step st).1 = .done) :
    let first := Measurement.start.fitting (s.page.measured? canvas) []
    s.stepMarks canvas st =
        ((s.armed st).release noting).marks (s.page.measured? canvas) ++ first ∧
      Kept canvas first (s.step st).2 ∧ (s.step st).2.hasMap = true := by
  intro first
  have noted := noted_step numbered st
  rw [← noted.reply] at made
  suffices s.stepMarks canvas st =
        ((s.armed st).release noting).marks (s.page.measured? canvas) ++ first ∧
      Kept canvas first (s.notedStep st).2 ∧ (s.notedStep st).2.hasMap = true by
    obtain ⟨marked, kept, live⟩ := this
    exact ⟨marked, noted.kept kept, by rwa [hasMap, ← noted.widget]⟩
  have leaving : OnPage (s.page.measured? canvas) canvas
      ((s.armed st).onWidget fun w => { w with leaving := true }) := ⟨numbered, rfl⟩
  have stopped := (onPage_enduring _ canvas).stop (OnPage.noting _ canvas) leaving
  have released : Away (s.page.measured? canvas) canvas false
      (((s.armed st).release noting).marks (s.page.measured? canvas))
      ((s.armed st).release noting) := ⟨⟨stopped.numbered, stopped.page⟩, rfl, rfl, rfl⟩
  unfold stepMarks
  unfold notedStep at made ⊢
  rw [create] at made ⊢
  simp only [act, Session.create] at made ⊢
  cases parsed : Settings.parse text with
  | error refusal => simp [parsed] at made
  | ok settings =>
      rw [parsed] at made
      cases problem : ((s.armed st).release noting).page.canvasProblem? canvas with
      | some problem => simp [problem] at made
      | none =>
          obtain ⟨home, marked⟩ := released.mount (notes_noting _ canvas) settings
          obtain ⟨r, new, held, own, fresh, _, size, ratio⟩ := home.holds
          have same : new = first := List.append_cancel_left (fresh.symm.trans marked)
          rw [same] at size
          exact ⟨marked, ⟨home.numbered, r, held, own, size, ratio⟩, rfl⟩

/-! ## Steps that fit the canvas -/

theorem hasMap_onWidget (live : s.hasMap = true) {f : Widget → Widget}
    (same : ∀ w, (f w).leaving = w.leaving) : (s.onWidget f).hasMap = true := by
  cases found : s.widget? <;> simp_all [hasMap]

theorem hasMap_enduring : Enduring fun s => s.hasMap = true where
  record _ _ _ h := h
  breakage _ _ h := h
  lending _ _ h := hasMap_onWidget h fun _ => rfl
  pace _ _ h := hasMap_onWidget h fun _ => rfl
  letGo _ _ h := hasMap_onWidget h fun _ => rfl
  cancel _ _ h := h
  take _ h := h
  unhook _ h := h
  answer _ _ h := h

/-- Nothing but giving it up takes a map from its page. -/
theorem hasMap_step (live : s.hasMap = true) {st : Step} (stays : st.action.keepsMap = true) :
    (s.step st).2.hasMap = true := by
  have schedules {react : Reaction} (keeps : Keeps react fun s => s.hasMap = true) :
      Schedules react fun s => s.hasMap = true :=
    hasMap_enduring.schedules keeps (fun _ _ _ h => h)
      fun _ _ h => hasMap_onWidget h fun _ => rfl
  have keeps : Keeps hooked fun s => s.hasMap = true :=
    hasMap_enduring.hooked_keeps (schedules (quiet_keeps _))
  have armed : (s.armed st).hasMap = true := live
  rw [Session.step]
  cases action : st.action with
  | change c => exact armed
  | load =>
      simp only [act, Session.load]
      split
      · exact armed
      · exact hasMap_enduring.log keeps _ armed
  | call c => exact hasMap_enduring.call keeps (schedules keeps) c armed
  | create canvas text => simp [action, Action.keepsMap] at stays
  | release => simp [action, Action.keepsMap] at stays

def Begins (m? : Option Measurement) (done : List Mark) (s : Session) : Prop :=
  done <+: s.marks m?

theorem begins_record {done : List Mark} (begins : Begins m? done s) (effect : Effect) :
    Begins m? done (s.record effect) := by
  rw [Begins, marks_record]
  exact begins.trans (List.prefix_append _ _)

theorem begins_enduring (m? : Option Measurement) (done : List Mark) :
    Enduring (Begins m? done) where
  record _ effect _ h := begins_record h effect
  breakage _ _ h := h
  lending _ _ h := h
  pace _ _ h := h
  letGo _ _ h := h
  cancel _ _ h := h
  take _ h := h
  unhook _ h := h
  answer _ _ h := h

theorem Begins.schedules {done : List Mark} (keeps : Keeps react (Begins m? done)) :
    Schedules react (Begins m? done) :=
  (begins_enduring m? done).schedules keeps
    (fun s w _ h => begins_record (s := { s with page := s.page.request w.owner }) h _)
    fun _ _ h => h

theorem Begins.noting (m? : Option Measurement) (done : List Mark) :
    Keeps noting (Begins m? done) := by
  have note (s : Session) (h : Begins m? done s) : Begins m? done (s.record .note) :=
    begins_record h .note
  exact (begins_enduring m? done).noting note (Begins.schedules (noted_keeps note))

/-- A tick comes to a frame of the map first, if one is due and the pacer admits it. -/
theorem begins_tick {done : List Mark} {time : Float} {w : Widget} (found : s.widget? = some w)
    (due : ∃ request ∈ s.page.queue, request.owner = w.owner) (admitted : w.pacer.admits time = true)
    (drawn : Begins m? done ((({ s with page := { s.page with queue := [] } } : Session).onWidget
      fun v => { v with handle? := none, pacer := w.pacer.offer time }).loopFrame noting)) :
    Begins m? done (s.tick noting time).2 := by
  let taken : Session := { s with page := { s.page with queue := [] } }
  have keeps := Begins.noting m? done
  have schedules := Begins.schedules keeps
  have enduring := begins_enduring m? done
  have turned : Begins m? done (taken.loopTurn noting time w.pacer) := by
    unfold loopTurn
    dsimp only
    rw [if_pos admitted]
    exact schedules _ drawn
  obtain ⟨after, ticked⟩ := foldl_grant_of_due noting time (s := taken) found due
  have whole := enduring.foldl_grant (fun _ => enduring.loopFrame keeps) schedules time after turned
  rw [← ticked] at whole
  exact whole

theorem stepMarks_call (live : s.hasMap = true) {st : Step} {c : Call} (called : st.action = .call c) :
    s.stepMarks canvas st = ((s.armed st).callMap noting c).2.marks (s.page.measured? canvas) := by
  have armed : (s.armed st).hasMap = true := live
  unfold stepMarks notedStep
  rw [called, act, call_of_hasMap noting armed]

/-- What the steps of a map with a canvas do to it. -/
structure StepsFit (canvas : String) (last : Measurement) (s : Session) : Prop where
  resize : ∀ st : Step, st.action = .call .resize →
    s.stepMarks canvas st = last.fitting (s.page.measured? canvas) []
  renderOnce : ∀ st : Step, st.action = .call .renderOnce → ∃ commands,
    s.stepMarks canvas st = last.fitting (s.page.measured? canvas) commands
  /-- A tick with a request of the map that is due. -/
  frame : ∀ (st : Step) (time : Float) (w : Widget), st.action = .call (.tick time) →
    s.widget? = some w → (∃ request ∈ s.page.queue, request.owner = w.owner) →
    w.pacer.admits time = true → ∃ commands later,
      s.stepMarks canvas st = last.fitting (s.page.measured? canvas) commands ++ later

theorem Kept.stepsFit (kept : Kept canvas past s) (live : s.hasMap = true) :
    StepsFit canvas (Measurement.start.latest past) s := by
  obtain ⟨r, held, own, size, _⟩ := kept.holds
  let m? := s.page.measured? canvas
  have same (commands : List Canvas.Command) : r.scene.size.fitting m? commands =
      (Measurement.start.latest past).fitting m? commands := by
    refine Measurement.fitting_congr (fun n => ?_) m? commands
    rw [size, Measurement.same_held fun _ => rfl]
  have fitted (t : Session) (page : t.page.measured? canvas = m?) (numbered : 0 < t.page.nextId)
      (has : t.renderer? = some r) : Fitted canvas noting r t :=
    fitted_of_notes (notes_noting · canvas) numbered has own
  refine ⟨fun st called => ?_, fun st called => ?_, fun st time w called found due admitted => ?_⟩
  · rw [stepMarks_call live called, ← same]
    exact (fitted (s.armed st) rfl kept.numbered held).resize
  · obtain ⟨commands, rendered⟩ := (fitted (s.armed st) rfl kept.numbered held).renderOnce
    refine ⟨commands, ?_⟩
    rw [stepMarks_call live called, ← same]
    exact rendered
  · let offered := ({ s.armed st with page := { s.page with queue := [] } } : Session).onWidget
      fun v => { v with handle? := none, pacer := w.pacer.offer time }
    have has : offered.renderer? = s.renderer? := renderer?_onWidget fun _ => rfl
    obtain ⟨commands, drawn⟩ := (fitted offered rfl kept.numbered (has.trans held)).loopFrame
    have begun : Begins m? (r.scene.size.fitting m? commands) (offered.loopFrame noting) := by
      rw [Begins]
      exact drawn ▸ List.prefix_refl _
    obtain ⟨later, whole⟩ := begins_tick (s := s.armed st) found due admitted begun
    refine ⟨commands, later, ?_⟩
    rw [stepMarks_call live called, ← same, whole]
    rfl

/-! ## Sessions -/

def traces (canvas : String) : Session → List Step → List (List Mark)
  | _, [] => []
  | s, st :: steps => s.stepMarks canvas st :: traces canvas (s.step st).2 steps

theorem Kept.run (kept : Kept canvas past s) (steps : List Step)
    (stay : ∀ st ∈ steps, st.action.keepsMap = true) :
    FitsEach (Measurement.start.latest past) (s.traces canvas steps) ∧
      Kept canvas (past ++ (s.traces canvas steps).flatten) (s.run steps) := by
  induction steps generalizing s past with
  | nil => exact ⟨trivial, by rwa [traces, List.flatten_nil, List.append_nil]⟩
  | cons st steps ih =>
      obtain ⟨fits, after⟩ := kept.step (stay st List.mem_cons_self)
      obtain ⟨later, final⟩ := ih after fun later member => stay later (List.mem_cons_of_mem _ member)
      rw [Measurement.latest_append] at later
      refine ⟨⟨fits, later⟩, ?_⟩
      rw [traces, List.flatten_cons, ← List.append_assoc]
      exact final

theorem hasMap_run (live : s.hasMap = true) (steps : List Step)
    (stay : ∀ st ∈ steps, st.action.keepsMap = true) : (s.run steps).hasMap = true := by
  induction steps generalizing s with
  | nil => exact live
  | cons st steps ih =>
      exact ih (hasMap_step live (stay st List.mem_cons_self))
        fun later member => stay later (List.mem_cons_of_mem _ member)

theorem measured_not_mem_marks (m : Measurement) (s : Session) :
    .measured (some m) ∉ s.marks none := by
  intro member
  obtain ⟨effect, _, marked⟩ := List.mem_filterMap.mp member
  unfold Effect.mark? at marked
  split at marked <;> cases marked

/-- A canvas that cannot be measured is left as it is, and the scene keeps its size. -/
theorem Kept.step_unmeasured (kept : Kept canvas past s) {st : Step}
    (stays : st.action.keepsMap = true) (unmeasured : s.page.measured? canvas = none) :
    s.stepMarks canvas st = [] ∧ Kept canvas past (s.step st).2 := by
  obtain ⟨fits, after⟩ := kept.step stays
  have nothing : s.stepMarks canvas st = [] := by
    refine fits.eq_nil_of_unmeasured fun m => ?_
    rw [stepMarks, unmeasured]
    exact measured_not_mem_marks m _
  rw [nothing, List.append_nil] at after
  exact ⟨nothing, after⟩

/-- While the map is given up its loop may still draw. -/
theorem Kept.release (kept : Kept canvas past s) (st : Step) :
    Fits (Measurement.start.latest past)
      (((s.armed st).release noting).marks (s.page.measured? canvas)) := by
  have leaving : Home (s.page.measured? canvas) canvas past []
      ((s.armed st).onWidget fun w => { w with leaving := true }) :=
    (kept.armed st).onWidget fun _ => rfl
  exact (leaving.stop (notes_noting _ canvas)).kept.1

/-- From the step on in which a map is made, and whatever calls its page makes and whenever: each
measurement of its container that is not the same as the one before is followed at once by the two
sizes that it comes to, one that is the same is not, and only then a frame may be drawn. Making the
map measures, and so do the calls to resize it and to draw it and the frame that a tick begins with, if
the pacer admits it; wherever the map has its renderer the same goes for calls from inside of a step.
Without a container nothing happens to the canvas and the scene keeps its size. So the sizes that were
written last are always those of the scene, which compares like what was measured last, and a pixel of
the page never gets less than one pixel of the canvas. All of this can be read off a page that takes
notes, where the same happens. -/
theorem canvas_follows_container (c : Page.Change) (before after : List Step) {create : Step}
    {canvas text : String} (creates : create.action = .create canvas text)
    (made : (((opened c).run before).step create).1 = .done)
    (kept : ∀ st ∈ after, st.action.keepsMap = true) :
    let s := (opened c).run before
    let live := (s.step create).2.run after
    let first := Measurement.start.fitting (s.page.measured? canvas) []
    (∀ steps st, Noted ((opened c).run steps) st) ∧
    (∀ react t r, react = noting ∨ react = noted → 0 < t.page.nextId → t.renderer? = some r →
      r.canvas = canvas → Fitted canvas react r t) ∧
    s.stepMarks canvas create =
      ((s.armed create).release noting).marks (s.page.measured? canvas) ++ first ∧
    ∃ r, live.renderer? = some r ∧ r.canvas = canvas ∧
      let traces := first :: (s.step create).2.traces canvas after
      let last := Measurement.start.latest traces.flatten
      let size := r.scene.size
      FitsEach .start traces ∧ StepsFit canvas last live ∧
      (∀ m, r.scene.differs m = !last.same m) ∧ 1 ≤ size.ratio ∧
      ((traces.flatten.filterMap Mark.width?).getLast? = none ∧
          (traces.flatten.filterMap Mark.height?).getLast? = none ∧ size = .start ∨
        (traces.flatten.filterMap Mark.width?).getLast? =
            some (backingSize size.width size.ratio) ∧
          (traces.flatten.filterMap Mark.height?).getLast? =
            some (backingSize size.height size.ratio)) ∧
      (∀ st : Step, st.action.keepsMap = true → live.page.measured? canvas = none →
        live.stepMarks canvas st = [] ∧
          (live.step st).2.renderer?.map (fun r => r.scene.size) = some size) ∧
      ∀ st : Step, Fits last (((live.armed st).release noting).marks
        (live.page.measured? canvas)) := by
  intro s live first
  have numbered (steps : List Step) : 0 < ((opened c).run steps).page.nextId :=
    (unnoted_run c steps).numbered
  obtain ⟨marked, created, has⟩ := kept_create (numbered before) creates made
  obtain ⟨each, final⟩ := created.run after kept
  obtain ⟨r, held, own, size, ratio⟩ := final.holds
  have whole : FitsEach .start (first :: (s.step create).2.traces canvas after) :=
    ⟨.fitting .start _ [], each⟩
  have steps := final.stepsFit (hasMap_run has after kept)
  refine ⟨fun steps st => noted_step (numbered steps) st, ?_, marked, r, held, own, whole, steps, ?_,
    ratio, ?_, ?_, fun st => final.release st⟩
  · rintro react t r (rfl | rfl) numbered held own
    · exact fitted_of_notes (notes_noting · canvas) numbered held own
    · exact fitted_of_notes (notes_noted · canvas) numbered held own
  · intro m
    rw [Scene.differs_eq, size, Measurement.same_held fun _ => rfl, List.flatten_cons]
  · rw [size]
    exact whole.flatten.written fun _ => rfl
  · intro st stays unmeasured
    obtain ⟨nothing, _, later, back, _, same, _⟩ := final.step_unmeasured stays unmeasured
    refine ⟨nothing, ?_⟩
    rw [back, Option.map_some, same, size]

/-- A map is resized, and measured again in a frame, after the page got two device pixels for each of
its own. -/
theorem widths_of_doubled :
    let create : Step := ⟨.create "map" "", none, none⟩
    let before : List Step := [⟨.call .renderOnce, none, none⟩,
      ⟨.change ⟨none, none, some 2, none, none, []⟩, none, none⟩]
    let resize : Step := ⟨.call .resize, none, none⟩
    let after := before ++ [resize,
      ⟨.call .renderOnce, none, some ⟨"getBoundingClientRect", [.resize]⟩⟩]
    let made := (opened framed).step create
    let live := made.2.run before
    let first := Measurement.start.fitting ((opened framed).page.measured? "map") []
    made.1 = .done ∧ (∀ st ∈ after, st.action.keepsMap = true) ∧
      (∃ m, live.page.measured? "map" = some m ∧
        live.stepMarks "map" resize = [.measured (some m), .width 20, .height 20]) ∧
      FitsEach .start (first :: made.2.traces "map" after) ∧
      ((first :: made.2.traces "map" after).flatten.filterMap Mark.width?).getLast? = some 20 := by
  intro create before resize after made live first
  have done : made.1 = .done := by decide +kernel
  have kept : ∀ st ∈ after, st.action.keepsMap = true := by decide
  have creates : create.action = .create "map" "" := rfl
  have resized : ∃ m, live.page.measured? "map" = some m ∧
      live.stepMarks "map" resize = [.measured (some m), .width 20, .height 20] := by
    obtain ⟨_, _, _, r, held, _, _, steps, differs, _⟩ := canvas_follows_container framed [] before
      creates done fun st member => kept st (List.mem_append_left _ member)
    have known : (live.renderer?.bind fun r => (live.page.measured? "map").map fun m =>
        (r.scene.differs m, backingSize m.width m.ratio, backingSize m.height m.ratio)) =
          some (true, 20, 20) := by decide +kernel
    rw [show live.renderer? = some r from held, Option.bind_some] at known
    obtain ⟨m, measured, sizes⟩ := Option.map_eq_some_iff.mp known
    simp only [Prod.mk.injEq] at sizes
    obtain ⟨other, width, height⟩ := sizes
    rw [differs m, Bool.not_eq_true'] at other
    refine ⟨m, measured, ?_⟩
    calc live.stepMarks "map" resize
      _ = Measurement.fitting _ (live.page.measured? "map") [] := steps.resize resize rfl
      _ = [.measured (some m), .width (backingSize m.width m.ratio),
          .height (backingSize m.height m.ratio)] := by
        rw [measured, Measurement.fitting_of_differs other]
      _ = [.measured (some m), .width 20, .height 20] := by rw [width, height]
  obtain ⟨_, _, _, r, held, _, fits, _, _, _, written, _⟩ :=
    canvas_follows_container framed [] after creates done kept
  have known : ((made.2.run after).renderer?.map fun r =>
      (r.scene.size.same .start, backingSize r.scene.size.width r.scene.size.ratio)) =
        some (false, 20) := by decide +kernel
  rw [show (made.2.run after).renderer? = some r from held] at known
  simp only [Option.map_some, Option.some.injEq, Prod.mk.injEq] at known
  refine ⟨done, kept, resized, fits, ?_⟩
  rcases written with ⟨_, _, unsized⟩ | ⟨width, _⟩
  · rw [unsized] at known
    exact absurd known.1 (by decide)
  · rw [← known.2]
    exact width

end PositionMap.Session
