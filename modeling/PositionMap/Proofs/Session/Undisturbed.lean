import PositionMap.Proofs.Session.Comparison
import PositionMap.Proofs.Session.Reentry

/-! # Work with the renderer is not disturbed

Frames and resizing hold the renderer while they work. Whatever the page calls from inside of their
effects finds the map busy: it can log and run the loop, but neither reach the canvas nor the scene.
The work is therefore done as on a page that does not call back.
-/

namespace PositionMap

def Effect.onCanvas : Effect → Bool
  | draw _ | canvasWidth _ | canvasHeight _ => true
  | requested _ | cancelled _ | log _ => false

/-- What a call comes to while the renderer is lent out: an answer, and a warning perhaps. Calls
that run the loop, or ask whether it runs, do not need the renderer. -/
def Call.whenBusy? : Call → Option (Reply × Option String)
  | position _ | originReset | scale _ | connection _ | resize | renderOnce =>
    some (.done, some "engine busy; call dropped")
  | event name payload =>
    match Event.decode name payload with
    | .error refusal =>
      some (.refused refusal.message, some ("dropped " ++ name ++ ": " ++ refusal.message))
    | .ok _ => some (.done, some "engine busy; call dropped")
  | scaleLabel => some (.text "", none)
  | positionLabels => some (.texts [], none)
  | trailLength | satellites => some (.count 0, none)
  | isConnected => some (.flag false, none)
  | fixStatus => some (.maybeText none, none)
  | tick _ | start | stop | isRunning => none

namespace Session

inductive Work
  | loopFrame
  | renderOnce
  | resize

def Work.run (work : Work) (react : Reaction) (s : Session) : Session :=
  match work with
  | loopFrame => s.loopFrame react
  | renderOnce => s.renderOnce react
  | resize => s.resize react

def canvasEffects (s : Session) : List Effect :=
  s.journal.toList.filter Effect.onCanvas

/-- The map of the first session is busy, and as far as canvas and measurements go the sessions are
the same. -/
structure Abreast (s t : Session) : Prop where
  busy : s.renderer? = none
  attached : s.widget?.isSome = true ∧ t.widget?.isSome = true
  logging : s.logging = t.logging
  breakage : s.breakage? = t.breakage?
  measured : ∀ canvas, (s.page.container? canvas).map s.page.measurement =
    (t.page.container? canvas).map t.page.measurement
  canvas : s.canvasEffects = t.canvasEffects

variable {react other : Reaction} {s t : Session} {allowed : Call → Prop}

theorem canvasEffects_record (s : Session) (effect : Effect) :
    (s.record effect).canvasEffects =
      s.canvasEffects ++ if effect.onCanvas then [effect] else [] := by
  cases on : effect.onCanvas <;> simp [canvasEffects, record, on]

theorem renderer?_onWidget {f : Widget → Widget} (same : ∀ w, (f w).renderer? = w.renderer?) :
    (s.onWidget f).renderer? = s.renderer? := by
  cases found : s.widget? <;> simp [renderer?, found, same]

theorem Abreast.refl (busy : s.renderer? = none) (attached : s.widget?.isSome = true) :
    Abreast s s :=
  ⟨busy, ⟨attached, attached⟩, rfl, rfl, fun _ => rfl, rfl⟩

theorem Abreast.onWidget (abreast : Abreast s t) {f : Widget → Widget}
    (same : ∀ w, (f w).renderer? = w.renderer?) : Abreast (s.onWidget f) t where
  busy := (renderer?_onWidget same).trans abreast.busy
  attached := by simpa using abreast.attached
  logging := abreast.logging
  breakage := abreast.breakage
  measured := abreast.measured
  canvas := abreast.canvas

theorem Abreast.record (abreast : Abreast s t) {effect : Effect} (off : effect.onCanvas = false) :
    Abreast (s.record effect) t where
  busy := abreast.busy
  attached := abreast.attached
  logging := abreast.logging
  breakage := abreast.breakage
  measured := abreast.measured
  canvas := by simpa [canvasEffects_record, off] using abreast.canvas

/-- The loop of a busy map leaves no trace on the canvas. -/
theorem abreast_circling (t : Session) : Circling fun s => Abreast s t where
  entry _ _ h := h.record rfl
  cancelled _ _ h := h.record rfl
  pace _ _ h := h.onWidget fun _ => rfl
  letGo _ _ h := h.onWidget fun _ => rfl
  cancel _ _ h := ⟨h.busy, h.attached, h.logging, h.breakage, h.measured, h.canvas⟩
  take _ h := ⟨h.busy, h.attached, h.logging, h.breakage, h.measured, h.canvas⟩

theorem Abreast.call (keeps : Keeps react fun s => Abreast s t) (abreast : Abreast s t) (c : Call) :
    Abreast (s.call react c).2 t := by
  have circling := abreast_circling t
  refine call_of_callMap (P := fun s => Abreast s t)
    (circling.callMap_of_busy (fun _ h => h.busy) keeps ?_ c abreast) abreast
  refine circling.schedules keeps (fun s w _ h => ?_) fun _ _ h => h.onWidget fun _ => rfl
  have asked : Abreast { s with page := s.page.request w.owner } t :=
    ⟨h.busy, h.attached, h.logging, h.breakage, h.measured, h.canvas⟩
  exact asked.record rfl

theorem CallsBack.abreast (back : CallsBack (fun _ => True) react) (t : Session) :
    Keeps react fun s => Abreast s t :=
  back.keeps (fun _ h => ⟨h.busy, h.attached, h.logging, h.breakage, h.measured, h.canvas⟩)
    (fun _ _ h => ⟨h.busy, h.attached, h.logging, h.breakage, h.measured, h.canvas⟩)
    (fun _ _ _ _ _ _ => trivial) fun _ keeps c _ _ h => h.call keeps c

/-- A page that calls back and one that does not stay abreast in a frame. -/
theorem CallsBack.paired (back : CallsBack (fun _ => True) react) :
    PairedFrames Abreast react Session.quiet where
  record s t effect h := by
    refine ⟨h.busy, h.attached, h.logging, h.breakage, h.measured, ?_⟩
    rw [canvasEffects_record, canvasEffects_record, h.canvas]
  answer signal s t h := back.abreast t signal s h
  logging _ _ h := h.logging
  measured _ _ canvas h := h.measured canvas
  breakage _ _ h := h.breakage
  breaking _ _ _ h := ⟨h.busy, h.attached, h.logging, rfl, h.measured, h.canvas⟩

theorem Work.run_paired {R : Session → Session → Prop} (paired : PairedFrames R react other)
    {r : Renderer} (free : s.renderer? = some r)
    (h : R (s.onWidget fun w => { w with renderer? := none })
      (s.onWidget fun w => { w with renderer? := none })) (work : Work) :
    ∃ r' a b, work.run react s = a.onWidget (fun w => { w with renderer? := some r' }) ∧
      work.run other s = b.onWidget (fun w => { w with renderer? := some r' }) ∧ R a b := by
  cases work with
  | loopFrame | renderOnce => exact lend_paired free (fun _ _ => paired.frame r) h
  | resize =>
      unfold Work.run Session.resize
      refine lend_paired free (fun a b related => ?_) h
      obtain ⟨fitted, scene, _, _, left, right, after⟩ := paired.fitCanvas r r.draws related
      unfold refit
      rw [left, right]
      cases fitted with
      | true => exact ⟨rfl, after⟩
      | false => exact ⟨rfl, paired.log _ after⟩

/-- During the work the page only reacts to sessions in which the renderer is lent out. -/
theorem CallsBack.paired_of_agree (back : CallsBack (fun _ => True) react)
    (agree : ∀ signal busy, busy.renderer? = none → other signal busy = react signal busy) :
    PairedFrames (fun s t => s = t ∧ Abreast s t) react other where
  record := by
    rintro s _ effect ⟨rfl, h⟩
    exact ⟨rfl, .refl h.busy h.attached.1⟩
  answer := by
    rintro signal s _ ⟨rfl, h⟩
    have after := back.abreast s signal s h
    exact ⟨(agree signal s h.busy).symm, by
      rw [agree signal s h.busy]
      exact .refl after.busy after.attached.1⟩
  logging _ _ h := h.2.logging
  measured _ _ canvas h := h.2.measured canvas
  breakage _ _ h := h.2.breakage
  breaking := by
    rintro s _ breakage? ⟨rfl, h⟩
    exact ⟨rfl, .refl h.busy h.attached.1⟩

theorem lent_abreast {r : Renderer} (free : s.renderer? = some r) :
    Abreast (s.onWidget fun w => { w with renderer? := none })
      (s.onWidget fun w => { w with renderer? := none }) := by
  obtain ⟨w, found, _⟩ := Option.bind_eq_some_iff.mp free
  exact .refl (by simp [renderer?, found]) (by simp [found])

theorem renderer?_of_attached {r : Renderer} (attached : s.widget?.isSome = true) :
    (s.onWidget fun w => { w with renderer? := some r }).renderer? = some r := by
  obtain ⟨w, found⟩ := Option.isSome_iff_exists.mp attached
  simp [renderer?, found]

/-- A call to a busy map answers as it does and warns, and that is all. -/
theorem callMap_of_busy (busy : s.renderer? = none) (react : Reaction) {c : Call} {reply : Reply}
    {warning? : Option String} (told : c.whenBusy? = some (reply, warning?)) :
    s.callMap react c = (reply, warning?.elim s fun text => s.warn react text) := by
  cases c with
  | event name payload =>
      simp only [Call.whenBusy?] at told
      cases decoded : Event.decode name payload <;> rw [decoded] at told <;> cases told
      · simp [callMap, Session.event, decoded]
      · simp [callMap, Session.event, decoded, Session.input, lend_of_busy busy, busyCall]
  | tick time => cases told
  | start | stop | isRunning => cases told
  | scaleLabel | positionLabels | trailLength | isConnected | fixStatus | satellites =>
      cases told
      simp [callMap, Session.read, busy]
  | position p | scale value | connection connected =>
      cases told
      simp [callMap, Session.input, lend_of_busy busy, busyCall]
  | originReset =>
      cases told
      simp [callMap, Session.input, lend_of_busy busy, busyCall]
  | resize =>
      cases told
      simp [callMap, Session.resize, lend_of_busy busy, busyCall]
  | renderOnce =>
      cases told
      simp [callMap, Session.renderOnce, lend_of_busy busy, busyCall]

/-- Whatever calls the page makes from inside of a frame, or of a resizing, and at whichever
effects: the renderer comes back as without them, and the effects on the canvas are the same. The
page reacts only while the renderer is lent out. Then a call leaves it lent out, and one that needs
it is answered by default and does nothing but warn. -/
theorem work_undisturbed (work : Work) {r : Renderer} (free : s.renderer? = some r)
    (back : CallsBack (fun _ => True) react) :
    (∃ r', (work.run react s).renderer? = some r' ∧ (work.run quiet s).renderer? = some r') ∧
    (work.run react s).canvasEffects = (work.run quiet s).canvasEffects ∧
    (∀ other : Reaction,
      (∀ signal busy, busy.renderer? = none → other signal busy = react signal busy) →
        work.run other s = work.run react s) ∧
    ∀ (busy : Session) (inner : Reaction) (c : Call), busy.renderer? = none → busy.hasMap = true →
      CallsBack (fun _ => True) inner →
        (busy.call inner c).2.renderer? = none ∧
        ∀ reply warning?, c.whenBusy? = some (reply, warning?) →
          busy.call inner c = (reply, warning?.elim busy fun text => busy.warn inner text) := by
  obtain ⟨r', a, b, left, right, abreast⟩ := work.run_paired back.paired free (lent_abreast free)
  refine ⟨⟨r', ?_, ?_⟩, ?_, fun other agree => ?_, fun busy inner c held live calls => ⟨?_, ?_⟩⟩
  · rw [left, renderer?_of_attached abreast.attached.1]
  · rw [right, renderer?_of_attached abreast.attached.2]
  · rw [left, right]
    exact abreast.canvas
  · obtain ⟨r', a, b, left, right, rfl, _⟩ := work.run_paired (back.paired_of_agree agree) free
      ⟨rfl, lent_abreast free⟩
    rw [left, right]
  · have attached : busy.widget?.isSome = true := by
      cases found : busy.widget? <;> simp_all [hasMap]
    exact (Abreast.call (calls.abreast busy) (.refl held attached) c).busy
  · intro reply warning? told
    rw [call_of_hasMap inner live]
    exact callMap_of_busy held inner told

/-- The page moves the position, asks for a resizing and for the length of the trail in the middle
of a picture. -/
theorem renderOnce_undisturbed :
    let s := ((opened framed).run looped).armed
      ⟨.call .renderOnce, none, some ⟨"fillRect", [.position ⟨3, 4⟩, .resize, .trailLength]⟩⟩
    s.renderer?.isSome = true ∧
      (Work.renderOnce.run hooked s).canvasEffects = (Work.renderOnce.run quiet s).canvasEffects ∧
      (Work.renderOnce.run hooked s).hookReplies = #[.done, .done, .count 0] := by
  intro s
  have held : s.renderer?.isSome = true := by decide +kernel
  obtain ⟨r, free⟩ := Option.isSome_iff_exists.mp held
  have undisturbed := work_undisturbed .renderOnce free (callsBack_hooked _)
  exact ⟨held, undisturbed.2.1, by decide +kernel⟩

end Session

end PositionMap
