import PositionMap.Proofs.Session.Marks
import PositionMap.Proofs.Session.Noting
import PositionMap.Proofs.Session.Undisturbed

/-! # What happens to a canvas

In a step the page's settings stay what they are, so that all measurements of a canvas come to the
same. From the journal of a page that takes notes one can read off what happened to the canvas, in
the calls of a hook, too. While the renderer is lent out nothing happens to it but what the
borrower does. A call that borrows it to fit the canvas measures the container first, writes the
sizes if it is not as large as before, and draws at last; other calls leave the canvas alone.
-/

namespace PositionMap

def Page.measured? (page : Page) (canvas : String) : Option Measurement :=
  (page.container? canvas).map page.measurement

theorem Page.one_le_ratio {page : Page} {canvas : String} {m : Measurement}
    (measured : page.measured? canvas = some m) : 1 ≤ m.ratio := by
  obtain ⟨size, _, rfl⟩ := Option.map_eq_some_iff.mp measured
  exact Number.one_le_greater page.ratio

theorem Scene.size_fitContainer (s : Scene) (m? : Option Measurement) :
    (s.fitContainer m?).1.size = m?.elim s.size s.size.taking := by
  cases m? with
  | none => rfl
  | some m => exact s.size_fit m

theorem Scene.size_hear (s : Scene) (notice : Notice) : (s.hear notice).1.size = s.size := by
  cases notice <;> rfl

theorem Scene.size_hearAll (s : Scene) (notices : List Notice) :
    (s.hearAll notices).1.size = s.size := by
  induction notices generalizing s with
  | nil => rfl
  | cons notice notices ih => exact (ih (s.hear notice).1).trans (s.size_hear notice)

/-- No call changes the size of a scene. -/
theorem Scene.size_apply (s : Scene) {i : Scene.Input} (called : i.called = true) :
    (s.apply i).1.size = s.size := by
  cases i with
  | position p => exact s.size_hear (.position p)
  | originReset => exact s.size_hear .originReset
  | scale value => rfl
  | connection connected => exact s.size_hear (.connection connected)
  | event event => exact s.size_hearAll event.notices
  | size m => cases called
  | container m? => cases called
  | fix fix => cases called

/-- What an effect means for a canvas, if the page notes measurements that come to this. -/
def Effect.mark? (m? : Option Measurement) : Effect → Option Mark
  | requested 0 => some (.measured m?)
  | canvasWidth pixels => some (.width pixels)
  | canvasHeight pixels => some (.height pixels)
  | draw command => some (.drawn command)
  | _ => none

/-- What whoever holds the renderer may do to the canvas of a scene: nothing, or fit it and draw. -/
inductive Piece (m? : Option Measurement) (size : Measurement) : List Mark → Prop
  | idle : Piece m? size []
  | fitting (commands : List Canvas.Command) : Piece m? size (size.fitting m? commands)

namespace Piece

variable {m? : Option Measurement} {size : Measurement} {past new piece : List Mark}

theorem extend (done : Piece m? size piece) (fits : Fits (Measurement.start.latest past) new)
    (held : size = Measurement.start.held (past ++ new)) :
    Fits (Measurement.start.latest past) (new ++ piece) ∧
      size.held piece = Measurement.start.held (past ++ (new ++ piece)) := by
  refine ⟨fits.append ?_, ?_⟩
  · cases done with
    | idle => exact .nil
    | fitting commands =>
        have agree (n : Measurement) :
            size.same n = ((Measurement.start.latest past).latest new).same n := by
          rw [held, ← Measurement.latest_append, Measurement.same_held fun _ => rfl]
        rw [Measurement.fitting_congr agree]
        exact .fitting _ m? commands
  · rw [← List.append_assoc, Measurement.held_append, ← held]

theorem one_le_ratio (done : Piece m? size piece) (least : 1 ≤ size.ratio)
    (bound : ∀ m, m? = some m → 1 ≤ m.ratio) : 1 ≤ (size.held piece).ratio := by
  cases done with
  | idle => exact least
  | fitting commands =>
      rw [Measurement.held_fitting]
      cases m? with
      | none => exact least
      | some m => exact Measurement.one_le_ratio_taking least (bound m rfl)

end Piece

namespace Session

def marks (m? : Option Measurement) (s : Session) : List Mark :=
  s.journal.toList.filterMap (Effect.mark? m?)

structure OnPage (m? : Option Measurement) (canvas : String) (s : Session) : Prop where
  numbered : 0 < s.page.nextId
  page : s.page.measured? canvas = m?

/-- There is no renderer to be had, and so far this happened to the canvas. -/
structure Away (m? : Option Measurement) (canvas : String) (attached : Bool) (marks : List Mark)
    (s : Session) : Prop extends OnPage m? canvas s where
  busy : s.renderer? = none
  map : s.widget?.isSome = attached
  marks : s.marks m? = marks

/-- The map holds the renderer of the canvas. What happened to the canvas since the marks that are
given last fits what happened to it before, and the scene has the size of all of it. -/
structure Home (m? : Option Measurement) (canvas : String) (past before : List Mark) (s : Session) :
    Prop extends OnPage m? canvas s where
  holds : ∃ r new, s.renderer? = some r ∧ r.canvas = canvas ∧ s.marks m? = before ++ new ∧
    Fits (Measurement.start.latest past) new ∧
    r.scene.size = Measurement.start.held (past ++ new) ∧ 1 ≤ r.scene.ratio

/-- What became of a renderer and of the session to which it is given back, if this was done to the
canvas. -/
structure Used (m? : Option Measurement) (canvas : String) (attached : Bool) (marks piece : List Mark)
    (r : Renderer) (after : Renderer × Session) : Prop where
  away : Away m? canvas attached (marks ++ piece) after.2
  own : after.1.canvas = canvas
  size : after.1.scene.size = r.scene.size.held piece

/-- Measurements are noted, and besides the page does nothing that matters for the canvas. -/
structure Notes (m? : Option Measurement) (canvas : String) (react : Reaction) : Prop where
  away : ∀ attached marks, Keeps (deaf react) (Away m? canvas attached marks)
  home : ∀ past before, Keeps (deaf react) (Home m? canvas past before)
  measured : ∀ attached marks s, Away m? canvas attached marks s →
    Away m? canvas attached (marks ++ [.measured m?]) (react measuring s)

variable {m? : Option Measurement} {canvas : String} {attached : Bool}
  {marks piece past before : List Mark} {react : Reaction} {s : Session} {signal : String}

theorem measure_of_measured? {m : Measurement} (measured : s.page.measured? canvas = some m) :
    s.measure react canvas = (some m, react measuring s) := by
  obtain ⟨size, found, rfl⟩ := Option.map_eq_some_iff.mp measured
  simp [Session.measure, found, measuring]

theorem measure_of_measured?_none (unmeasured : s.page.measured? canvas = none) :
    s.measure react canvas = (none, s) := by
  simp [Session.measure, Option.map_eq_none_iff.mp unmeasured]

/-! ## Sessions with and without a renderer -/

theorem marks_record (m? : Option Measurement) (s : Session) (effect : Effect) :
    (s.record effect).marks m? = s.marks m? ++ (effect.mark? m?).toList := by
  cases marked : effect.mark? m? <;> simp [Session.marks, record, marked]

theorem mark?_requested {id : Nat} (numbered : 0 < id) :
    (Effect.requested id).mark? m? = none := by
  cases id with
  | zero => cases numbered
  | succ id => rfl

theorem Away.record (away : Away m? canvas attached marks s) (effect : Effect) :
    Away m? canvas attached (marks ++ (effect.mark? m?).toList) (s.record effect) :=
  ⟨⟨away.numbered, away.page⟩, away.busy, away.map, by rw [marks_record, away.marks]⟩

theorem Away.silent (away : Away m? canvas attached marks s) {effect : Effect}
    (silent : effect.mark? m? = none) : Away m? canvas attached marks (s.record effect) := by
  simpa [silent] using away.record effect

theorem Away.onWidget (away : Away m? canvas attached marks s) {f : Widget → Widget}
    (same : ∀ w, (f w).renderer? = w.renderer?) : Away m? canvas attached marks (s.onWidget f) :=
  ⟨⟨away.numbered, away.page⟩, (renderer?_onWidget same).trans away.busy, by
    simpa using away.map, away.marks⟩

theorem away_circling (m? : Option Measurement) (canvas : String) (attached : Bool)
    (marks : List Mark) : Circling (Away m? canvas attached marks) where
  entry _ _ h := h.silent rfl
  cancelled _ _ h := h.silent rfl
  pace _ _ h := h.onWidget fun _ => rfl
  letGo _ _ h := h.onWidget fun _ => rfl
  cancel _ _ h := ⟨⟨h.numbered, h.page⟩, h.busy, h.map, h.marks⟩
  take _ h := ⟨⟨h.numbered, h.page⟩, h.busy, h.map, h.marks⟩

theorem Home.silent (home : Home m? canvas past before s) {effect : Effect}
    (silent : effect.mark? m? = none) : Home m? canvas past before (s.record effect) := by
  refine ⟨⟨home.numbered, home.page⟩, ?_⟩
  obtain ⟨r, new, held, own, marked, rest⟩ := home.holds
  exact ⟨r, new, held, own, by rw [marks_record, silent, marked]; simp, rest⟩

theorem Home.onWidget (home : Home m? canvas past before s) {f : Widget → Widget}
    (same : ∀ w, (f w).renderer? = w.renderer?) : Home m? canvas past before (s.onWidget f) := by
  refine ⟨⟨home.numbered, home.page⟩, ?_⟩
  obtain ⟨r, new, held, rest⟩ := home.holds
  exact ⟨r, new, (renderer?_onWidget same).trans held, rest⟩

theorem home_circling (m? : Option Measurement) (canvas : String) (past before : List Mark) :
    Circling (Home m? canvas past before) where
  entry _ _ h := h.silent rfl
  cancelled _ _ h := h.silent rfl
  pace _ _ h := h.onWidget fun _ => rfl
  letGo _ _ h := h.onWidget fun _ => rfl
  cancel _ _ h := ⟨⟨h.numbered, h.page⟩, h.holds⟩
  take _ h := ⟨⟨h.numbered, h.page⟩, h.holds⟩

theorem Away.schedules (keeps : Keeps react (Away m? canvas attached marks)) :
    Schedules react (Away m? canvas attached marks) := by
  refine (away_circling m? canvas attached marks).schedules keeps (fun s w _ h => ?_)
    fun _ _ h => h.onWidget fun _ => rfl
  have asked : Away m? canvas attached marks { s with page := s.page.request w.owner } :=
    ⟨⟨Nat.succ_pos _, h.page⟩, h.busy, h.map, h.marks⟩
  exact asked.silent (mark?_requested h.numbered)

theorem Home.schedules (keeps : Keeps react (Home m? canvas past before)) :
    Schedules react (Home m? canvas past before) := by
  refine (home_circling m? canvas past before).schedules keeps (fun s w _ h => ?_)
    fun _ _ h => h.onWidget fun _ => rfl
  have asked : Home m? canvas past before { s with page := s.page.request w.owner } :=
    ⟨⟨Nat.succ_pos _, h.page⟩, h.holds⟩
  exact asked.silent (mark?_requested h.numbered)

/-! ## Working with the renderer -/

section

variable (notes : Notes m? canvas react)

include notes

theorem Away.call (away : Away m? canvas attached marks s) (c : Call) :
    Away m? canvas attached marks (s.call react c).2 := by
  have keeps := notes.away attached marks
  exact call_of_callMap ((away_circling m? canvas attached marks).callMap_of_deaf
    (fun _ h => h.busy) keeps (Away.schedules keeps) c away) away

theorem Away.log (away : Away m? canvas attached marks s) (entry : Entry) :
    Away m? canvas attached marks (s.log react entry) := by
  rw [← log_deaf]
  exact (away_circling m? canvas attached marks).log (notes.away attached marks) entry away

theorem Away.logAll (away : Away m? canvas attached marks s) (entries : List Entry) :
    Away m? canvas attached marks (s.logAll react entries) := by
  rw [← logAll_deaf]
  exact (away_circling m? canvas attached marks).logAll (notes.away attached marks) entries away

theorem Away.emit (away : Away m? canvas attached marks s) (effect : Effect) :
    Away m? canvas attached (marks ++ (effect.mark? m?).toList) (s.emit react effect) := by
  rw [← emit_deaf]
  exact notes.away attached _ _ _ (away.record effect)

theorem Away.emitAll (away : Away m? canvas attached marks s)
    (commands : List Canvas.Command) :
    Away m? canvas attached (marks ++ commands.map .drawn)
      (s.emitAll react (commands.map .draw)) := by
  induction commands generalizing marks s with
  | nil => simpa [Session.emitAll] using away
  | cons command commands ih =>
      have drawn := ih (away.emit notes (.draw command))
      rw [List.map_cons, List.append_cons]
      exact drawn

theorem Away.paint (away : Away m? canvas attached marks s) (scene : Scene) :
    ∃ commands : List Canvas.Command,
      Away m? canvas attached (marks ++ commands.map .drawn) (s.paint react scene) := by
  let performance := Canvas.play s.breakage? scene.picture
  have broken : Away m? canvas attached marks { s with breakage? := performance.pending? } :=
    ⟨⟨away.numbered, away.page⟩, away.busy, away.map, away.marks⟩
  refine ⟨performance.performed, ?_⟩
  have drawn := broken.emitAll notes performance.performed
  unfold Session.paint
  dsimp only
  split
  · exact drawn.log notes _
  · exact drawn

theorem Away.sized (away : Away m? canvas attached marks s) (scene : Scene) (m : Measurement) :
    Away m? canvas attached (marks ++ scene.size.writes m) (s.sized react scene m) := by
  have logged := away.logAll notes (scene.fit m).2
  unfold Session.sized Measurement.writes
  rw [Scene.differs_eq]
  cases scene.size.same m with
  | true => simpa using logged
  | false =>
      have written := (logged.emit notes (.canvasWidth (backingSize m.width m.ratio))).emit notes
        (.canvasHeight (backingSize m.height m.ratio))
      simpa [Effect.mark?] using written

/-- A canvas that can be measured takes the size; one that cannot is left alone. -/
theorem Away.fitCanvas (away : Away m? canvas attached marks s) {r : Renderer}
    (own : r.canvas = canvas) :
    ∃ later, s.fitCanvas react r =
        (m?.isSome, { r with scene := (r.scene.fitContainer m?).1 }, later) ∧
      Away m? canvas attached (marks ++ r.scene.size.fitting m? []) later := by
  subst own
  have page := away.page
  cases m? with
  | none =>
      refine ⟨s, fitCanvas_of_unmeasured (measure_of_measured?_none page), ?_⟩
      rwa [Measurement.fitting, List.append_nil]
  | some m =>
      have sized := (notes.measured attached marks s away).sized notes r.scene m
      refine ⟨_, fitCanvas_of_measured (measure_of_measured? page), ?_⟩
      simpa [Measurement.fitting] using sized

omit notes in
theorem Away.used (away : Away m? canvas attached (marks ++ piece) s) {r : Renderer}
    (own : r.canvas = canvas) {commands : List Canvas.Command}
    (done : piece = r.scene.size.fitting m? commands) :
    Used m? canvas attached marks piece r ({ r with scene := (r.scene.fitContainer m?).1 }, s) := by
  refine ⟨away, own, ?_⟩
  rw [done, Measurement.held_fitting]
  exact Scene.size_fitContainer _ m?

theorem Away.refit (away : Away m? canvas attached marks s) {r : Renderer}
    (own : r.canvas = canvas) :
    Used m? canvas attached marks (r.scene.size.fitting m? []) r (Session.refit react r s) := by
  obtain ⟨later, fitted, sized⟩ := away.fitCanvas notes own
  unfold Session.refit
  rw [fitted]
  cases m? with
  | none => exact (sized.log notes _).used own rfl
  | some m => exact sized.used own rfl

theorem Away.frame (away : Away m? canvas attached marks s) {r : Renderer}
    (own : r.canvas = canvas) :
    ∃ commands, Used m? canvas attached marks (r.scene.size.fitting m? commands) r
      (Session.frame react r s) := by
  obtain ⟨later, fitted, sized⟩ := away.fitCanvas notes own
  unfold Session.frame
  rw [fitted]
  cases m? with
  | none => exact ⟨[], (sized.log notes _).used own rfl⟩
  | some m =>
      dsimp only [Option.isSome_some]
      by_cases draws : r.draws = true
      · obtain ⟨commands, painted⟩ := sized.paint notes (r.scene.fitContainer (some m)).1
        rw [if_pos draws]
        refine ⟨commands, Away.used ?_ own rfl⟩
        simpa [Measurement.fitting] using painted
      · rw [if_neg draws]
        exact ⟨[], sized.used own rfl⟩

omit notes in
theorem marks_lend {r : Renderer} (held : s.renderer? = some r) {busy : Session → Session}
    {use : Renderer → Session → Renderer × Session}
    (used : Used m? canvas attached (s.marks m?) piece r
      (use r (s.onWidget fun w => { w with renderer? := none }))) :
    (s.lend busy use).marks m? = s.marks m? ++ piece := by
  unfold Session.lend
  rw [held]
  exact used.away.marks

omit notes in
theorem away_of_lent (numbered : 0 < s.page.nextId) (page : s.page.measured? canvas = m?) {r : Renderer}
    (held : s.renderer? = some r) :
    Away m? canvas true (s.marks m?) (s.onWidget fun w => { w with renderer? := none }) := by
  obtain ⟨w, found, has⟩ := Option.bind_eq_some_iff.mp held
  exact ⟨⟨numbered, page⟩, by simp [renderer?, found], by simp [found], rfl⟩

omit notes in
theorem Home.lend (home : Home m? canvas past before s) {busy : Session → Session}
    {use : Renderer → Session → Renderer × Session}
    (used : ∀ r marks s, r.canvas = canvas → Away m? canvas true marks s →
      ∃ piece, Piece m? r.scene.size piece ∧ Used m? canvas true marks piece r (use r s)) :
    Home m? canvas past before (s.lend busy use) := by
  obtain ⟨r, new, held, own, marked, fits, size, ratio⟩ := home.holds
  have lent := away_of_lent home.numbered home.page held
  obtain ⟨piece, done, after⟩ := used r _ _ own lent
  have marks : (s.lend busy use).marks m? = s.marks m? ++ piece := marks_lend held after
  rw [marked, List.append_assoc] at marks
  have away := after.away
  obtain ⟨fits, total⟩ := done.extend fits size
  rw [← after.size] at total
  have bound : ∀ m, m? = some m → 1 ≤ m.ratio := fun m measured =>
    Page.one_le_ratio (home.page.trans measured)
  have least := done.one_le_ratio ratio bound
  rw [← after.size] at least
  unfold Session.lend at marks ⊢
  rw [held] at marks ⊢
  exact ⟨⟨away.numbered, away.page⟩, (use r _).1, new ++ piece, renderer?_of_attached away.map,
    after.own, marks, fits, total, least⟩

theorem Home.input (home : Home m? canvas past before s) (i : Scene.Input)
    (sizeless : ∀ scene : Scene, (scene.apply i).1.size = scene.size) :
    Home m? canvas past before (s.input react i) := by
  refine home.lend fun r marks s own away => ⟨[], .idle, ?_, own, sizeless r.scene⟩
  rw [List.append_nil]
  exact away.logAll notes _

theorem Home.lend_frame (home : Home m? canvas past before s) (text : String) :
    Home m? canvas past before (s.lend (warn react text) (Session.frame react)) := by
  refine home.lend fun r marks s own away => ?_
  obtain ⟨commands, used⟩ := away.frame notes own
  exact ⟨_, .fitting commands, used⟩

theorem Home.resize (home : Home m? canvas past before s) :
    Home m? canvas past before (s.resize react) :=
  home.lend fun _ _ _ own away => ⟨_, .fitting [], away.refit notes own⟩

theorem Home.log (home : Home m? canvas past before s) (entry : Entry) :
    Home m? canvas past before (s.log react entry) := by
  rw [← log_deaf]
  exact (home_circling m? canvas past before).log (notes.home past before) entry home

theorem Home.stop (home : Home m? canvas past before s) :
    Home m? canvas past before (s.stop react) := by
  rw [← stop_deaf]
  exact (home_circling m? canvas past before).stop (notes.home past before) home

theorem Home.call (home : Home m? canvas past before s) (c : Call) :
    Home m? canvas past before (s.call react c).2 := by
  have circling := home_circling m? canvas past before
  have schedules := Home.schedules (notes.home past before)
  have started := circling.start (notes.home past before) schedules home
  rw [start_deaf] at started
  rw [Schedules, schedule_deaf] at schedules
  exact call_of_callMap (callMap_keeps c (fun entry => home.log notes entry)
    (fun i called => home.input notes i fun scene => scene.size_apply called) (home.resize notes)
    (home.lend_frame notes _)
    (fun time _ => circling.tick (fun _ h => h.lend_frame notes _) schedules time home)
    (fun _ => started) (fun _ => home.stop notes) home) home

/-- A map that is made on a page without one fits its canvas to the container. -/
theorem Away.mount (away : Away m? canvas false marks s) (settings : Settings) :
    let first := Measurement.start.fitting m? []
    Home m? canvas [] marks (s.mount react canvas settings) ∧
      (s.mount react canvas settings).marks m? = marks ++ first := by
  intro first
  let plain : Renderer := ⟨canvas, s.page.draws canvas, .ofSettings settings⟩
  have warned (fine : Bool) (text : String) {marks : List Mark} {s : Session}
      (h : Away m? canvas false marks s) :
      Away m? canvas false marks (if fine then s else s.warn react text) := by
    cases fine with
    | true => exact h
    | false => exact h.log notes _
  have drawable := warned (s.page.draws canvas)
    "canvas has no 2d context; frames will be skipped" away
  obtain ⟨later, fitted, sized⟩ := drawable.fitCanvas notes (r := plain) rfl
  have used := sized.used (r := plain) rfl rfl
  have bound := (warned m?.isSome
      ("#" ++ canvas ++ " has no container; frames skipped until it is attached") sized).log notes
    ⟨.info, "renderer bound to #" ++ canvas ++ " (scale " ++
      Number.shown settings.initialScale ++ " m)"⟩
  have done : Piece m? .start first := .fitting []
  obtain ⟨fits, size⟩ : Fits (Measurement.start.latest []) ([] ++ first) ∧
      Measurement.start.held first = Measurement.start.held ([] ++ ([] ++ first)) :=
    done.extend .nil rfl
  have least : 1 ≤ (Measurement.start.held first).ratio :=
    done.one_le_ratio (by decide) fun m measured => Page.one_le_ratio (away.page.trans measured)
  have same : (plain.scene.fitContainer m?).1.size = Measurement.start.held first := used.size
  rw [← same] at size least
  unfold Session.mount
  dsimp only
  rw [fitted]
  exact ⟨⟨⟨bound.numbered, bound.page⟩, _, first, rfl, rfl, bound.marks, fits, size, least⟩,
    bound.marks⟩

end

/-- Wherever the map has the renderer of a canvas, this comes of fitting the canvas. -/
structure Fitted (canvas : String) (react : Reaction) (r : Renderer) (s : Session) : Prop where
  resize : (s.resize react).marks (s.page.measured? canvas) =
    s.marks (s.page.measured? canvas) ++ r.scene.size.fitting (s.page.measured? canvas) []
  renderOnce : ∃ commands, (s.renderOnce react).marks (s.page.measured? canvas) =
    s.marks (s.page.measured? canvas) ++ r.scene.size.fitting (s.page.measured? canvas) commands
  loopFrame : ∃ commands, (s.loopFrame react).marks (s.page.measured? canvas) =
    s.marks (s.page.measured? canvas) ++ r.scene.size.fitting (s.page.measured? canvas) commands

theorem fitted_of_notes (notes : ∀ m?, Notes m? canvas react) (numbered : 0 < s.page.nextId)
    {r : Renderer} (held : s.renderer? = some r) (own : r.canvas = canvas) :
    Fitted canvas react r s := by
  have lent := away_of_lent numbered (Eq.refl (s.page.measured? canvas)) held
  obtain ⟨commands, used⟩ := lent.frame (notes _) own
  exact ⟨marks_lend held (lent.refit (notes _) own), ⟨commands, marks_lend held used⟩,
    ⟨commands, marks_lend held used⟩⟩

/-! ## The page that takes notes -/

theorem deaf_noted : deaf noted = quiet := by
  funext signal s
  unfold deaf noted
  split <;> rfl

theorem notes_noted (m? : Option Measurement) (canvas : String) : Notes m? canvas noted where
  away _ _ := deaf_noted ▸ quiet_keeps _
  home _ _ := deaf_noted ▸ quiet_keeps _
  measured _ _ _ h := h.record .note

theorem noting_keeps {P : Session → Prop} (unhook : ∀ s, P s → P { s with hook? := none })
    (answer : ∀ s hookReplies, P s → P { s with hookReplies })
    (called : ∀ c s, P s → P (s.call noted c).2) {signal : String} (h : P (noted signal s)) :
    P (noting signal s) := by
  unfold noting
  dsimp only
  split
  · exact h
  · split
    · exact callEach_keeps answer (fun c _ => called c) (unhook _ h)
    · exact h

theorem noted_keeps {P : Session → Prop} (note : ∀ s, P s → P (s.record .note)) :
    Keeps noted P := by
  intro signal s h
  unfold noted
  split
  · exact note s h
  · exact h

theorem Enduring.noting {P : Session → Prop} (enduring : Enduring P)
    (note : ∀ s, P s → P (s.record .note)) (schedules : Schedules noted P) : Keeps noting P := by
  intro signal s h
  have keeps := noted_keeps note
  exact noting_keeps enduring.unhook enduring.answer
    (fun c _ h => enduring.call keeps schedules c h) (keeps signal s h)

theorem Away.noting (away : Away m? canvas attached marks (noted signal s)) :
    Away m? canvas attached marks (Session.noting signal s) :=
  noting_keeps (fun _ h => ⟨⟨h.numbered, h.page⟩, h.busy, h.map, h.marks⟩)
    (fun _ _ h => ⟨⟨h.numbered, h.page⟩, h.busy, h.map, h.marks⟩)
    (fun c _ h => h.call (notes_noted m? canvas) c) away

theorem Home.noting (home : Home m? canvas past before (noted signal s)) :
    Home m? canvas past before (Session.noting signal s) :=
  noting_keeps (fun _ h => ⟨⟨h.numbered, h.page⟩, h.holds⟩)
    (fun _ _ h => ⟨⟨h.numbered, h.page⟩, h.holds⟩)
    (fun c _ h => h.call (notes_noted m? canvas) c) home

theorem notes_noting (m? : Option Measurement) (canvas : String) : Notes m? canvas noting where
  away attached marks signal s h := by
    unfold deaf
    split
    · exact h
    · rename_i other
      exact Away.noting (by rwa [noted, if_neg other])
  home past before signal s h := by
    unfold deaf
    split
    · exact h
    · rename_i other
      exact Home.noting (by rwa [noted, if_neg other])
  measured _ _ _ h := Away.noting (h.record .note)

end Session

end PositionMap
