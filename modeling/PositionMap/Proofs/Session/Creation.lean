import PositionMap.Proofs.Session.Inert
import PositionMap.Proofs.Session.Sizing

/-! # Making a map

The settings are checked before the page is, and the page before anything is done. So a map that is
refused leaves the session as it was when the map before it was gone. A map that is not refused is
there only at the end: while it is made there is nothing that the page could call, whatever it is
that it reacts to, and all that a tick does is to let go of the frames of maps that are gone.
-/

namespace PositionMap

namespace Page

def canvasChecks (page : Page) (id : String) : List (Option String) :=
  [if page.window then none else some "No window",
    if page.document then none else some "No document",
    if (page.element? id).isSome then none else some "No canvas element found",
    if (page.element? id).any Element.isCanvas then none else some "Element is not a canvas"]

/-- What is wrong with what a map is to be made of, one check after the other. -/
def creationChecks (page : Page) (canvas settings : String) : List (Option String) :=
  (match Settings.parse settings with
    | .error refusal => some refusal.message
    | .ok _ => none) :: page.canvasChecks canvas

/-- The page, whatever frames it was asked for. -/
def unasked (page : Page) : Page :=
  { page with queue := [], nextId := 0 }

theorem canvasProblem?_eq (page : Page) (id : String) :
    page.canvasProblem? id = (page.canvasChecks id).findSome? fun problem? => problem? := by
  unfold canvasProblem? canvasChecks
  cases page.window with
  | false => rfl
  | true =>
      cases page.document with
      | false => rfl
      | true =>
          cases page.element? id with
          | none => rfl
          | some element => cases canvas : element.isCanvas <;> simp [canvas]

theorem canvasProblem?_eq_none_iff (page : Page) (id : String) :
    page.canvasProblem? id = none ↔ page.window = true ∧ page.document = true ∧
      ∃ element, page.element? id = some element ∧ element.isCanvas = true := by
  unfold canvasProblem?
  cases page.window with
  | false => simp
  | true =>
      cases page.document with
      | false => simp
      | true => cases page.element? id <;> simp

theorem creationChecks_pass_iff (page : Page) (canvas text : String) :
    ((page.creationChecks canvas text).findSome? fun problem? => problem?) = none ↔
      (∃ settings, Settings.parse text = .ok settings) ∧ page.window = true ∧
        page.document = true ∧
        ∃ element, page.element? canvas = some element ∧ element.isCanvas = true := by
  unfold creationChecks
  cases Settings.parse text with
  | error refusal => simp
  | ok settings =>
      rw [List.findSome?_cons, ← canvasProblem?_eq, canvasProblem?_eq_none_iff]
      simp

end Page

namespace Session

def verdict : Option String → Reply
  | some problem => .refused problem
  | none => .done

theorem verdict_eq_done_iff {problem? : Option String} :
    verdict problem? = .done ↔ problem? = none := by
  cases problem? <;> simp [verdict]

variable {page : Page} {owner : Nat} {react : Reaction} {s : Session}

/-! ## The checks -/

theorem create_reply (react : Reaction) (canvas settings : String) (s : Session) :
    (s.create react canvas settings).1 =
      verdict ((s.page.creationChecks canvas settings).findSome? fun problem? => problem?) := by
  unfold Session.create Page.creationChecks
  cases Settings.parse settings with
  | error refusal => rfl
  | ok settings =>
      rw [List.findSome?_cons, ← Page.canvasProblem?_eq]
      cases s.page.canvasProblem? canvas <;> rfl

theorem create_refused {canvas text : String} (refused : (s.create react canvas text).1 ≠ .done) :
    (s.create react canvas text).2 = s := by
  unfold Session.create at refused ⊢
  cases parsed : Settings.parse text with
  | error refusal => rfl
  | ok settings =>
      cases problem : s.page.canvasProblem? canvas with
      | some problem => rfl
      | none => simp [parsed, problem] at refused

theorem create_of_checked {canvas text : String} {settings : Settings}
    (parsed : Settings.parse text = .ok settings) (sound : s.page.canvasProblem? canvas = none) :
    s.create react canvas text = (.done, s.mount react canvas settings) := by
  simp [Session.create, parsed, sound]

/-! ## The map before -/

def Around (page : Page) (s : Session) : Prop :=
  s.page.unasked = page.unasked

theorem around_enduring (page : Page) : Enduring (Around page) where
  record _ _ _ h := h
  breakage _ _ h := h
  lending _ _ h := h
  pace _ _ h := h
  letGo _ _ h := h
  cancel _ _ h := h
  take _ h := h
  unhook _ h := h
  answer _ _ h := h

theorem Around.eq {α : Type} (around : Around page s) (f : Page → α)
    (blind : ∀ page : Page, f page.unasked = f page) : f s.page = f page := by
  rw [← blind s.page, around, blind]

theorem Around.schedules (keeps : Keeps react (Around page)) : Schedules react (Around page) :=
  (around_enduring page).schedules keeps (fun _ _ _ h => h) fun _ _ h => h

theorem Around.release (around : Around page s) : Around page (s.release hooked) := by
  have enduring := around_enduring page
  have leaving : Around page (s.onWidget fun w => { w with leaving := true }) := around
  exact enduring.stop (enduring.hooked_keeps (Around.schedules (quiet_keeps _))) leaving

theorem release_of_empty (empty : s.widget? = none) : s.release react = s := by
  obtain ⟨page, logging, widget?, nextOwner, breakage?, hook?, hookReplies, journal⟩ := s
  obtain rfl : widget? = none := empty
  rfl

theorem Around.fitCanvas (around : Around page s) (react : Reaction) (r : Renderer) :
    (s.fitCanvas react r).2.1 =
      { r with scene := (r.scene.fitContainer (page.measured? r.canvas)).1 } := by
  have same : s.page.measured? r.canvas = page.measured? r.canvas :=
    around.eq (fun page => page.measured? r.canvas) fun _ => rfl
  cases measured : page.measured? r.canvas with
  | none => rw [fitCanvas_of_unmeasured (measure_of_measured?_none (same.trans measured))]; rfl
  | some m => rw [fitCanvas_of_measured (measure_of_measured? (same.trans measured))]; rfl

/-! ## The map itself -/

/-- There is no map, and no frame was asked for. The next map gets the given number. -/
structure Vacant (page : Page) (owner : Nat) (s : Session) : Prop where
  around : Around page s
  nextId : s.page.nextId = page.nextId
  owner : s.nextOwner = owner
  empty : s.widget? = none

theorem vacant_fitting (page : Page) (owner : Nat) : Fitting (Vacant page owner) where
  entry _ _ h := ⟨h.around, h.nextId, h.owner, h.empty⟩
  cancelled _ _ h := ⟨h.around, h.nextId, h.owner, h.empty⟩
  width _ _ h := ⟨h.around, h.nextId, h.owner, h.empty⟩
  height _ _ h := ⟨h.around, h.nextId, h.owner, h.empty⟩

theorem Vacant.tick (vacant : Vacant page owner s) (react : Reaction) (time : Float) :
    Vacant page owner (s.tick react time).2 := by
  let taken : Session := { s with page := { s.page with queue := [] } }
  have granted : (s.tick react time).2 = taken :=
    foldl_grant_of_foreign (s := taken) react time s.page.queue
      fun w found => absurd (vacant.empty.symm.trans found) (by simp)
  rw [granted]
  exact ⟨vacant.around, vacant.nextId, vacant.owner, vacant.empty⟩

theorem Vacant.call (vacant : Vacant page owner s) (react : Reaction) (c : Call) :
    Vacant page owner (s.call react c).2 := by
  have nobody : s.hasMap = false := by simp [hasMap, vacant.empty]
  cases c with
  | tick time => exact vacant.tick react time
  | _ => simpa [Session.call, nobody] using vacant

theorem Vacant.keeps (page : Page) (owner : Nat) : Keeps hooked (Vacant page owner) :=
  Session.hooked_keeps fun _ _ _ h =>
    callBack_keeps (fun _ _ h => ⟨h.around, h.nextId, h.owner, h.empty⟩)
      (fun c _ _ h => h.call quiet c) ⟨h.around, h.nextId, h.owner, h.empty⟩

/-- The map is there at the end. Its canvas took the size of the container, if there is one. -/
theorem Vacant.mount (vacant : Vacant page owner s) (canvas : String) (settings : Settings) :
    ∃ ready, Vacant page owner ready ∧ s.mount hooked canvas settings =
      { ready with
        widget? := some ⟨owner, some ⟨canvas, page.draws canvas,
          ((Scene.ofSettings settings).fitContainer (page.measured? canvas)).1⟩, none,
          .ofRate settings.maxRate, false⟩
        nextOwner := owner + 1 } := by
  have draws : s.page.draws canvas = page.draws canvas :=
    vacant.around.eq (fun page => page.draws canvas) fun _ => rfl
  obtain ⟨bare, ready, before, kept, mounted⟩ :=
    (vacant_fitting page owner).mount_fitted (Vacant.keeps page owner) canvas settings vacant
  refine ⟨ready, kept, ?_⟩
  rw [mounted, before.around.fitCanvas, draws, kept.owner]

/-- A map is made from an id and a text. The answer is the first thing that is wrong: with the settings,
the window, the document, the element or its being a canvas; neither the context that it gives out nor
a container is needed. If anything is wrong, giving up the map before was all that happened: without
one, nothing did. Otherwise the map that is there does not run, no frame was asked for, and its scene is
that of the settings, which took the size of the container if there is one. -/
theorem create_whole_or_nothing (s : Session) (canvas text : String)
    (breakage? : Option Canvas.Breakage) (hook? : Option Hook) :
    let st : Step := ⟨.create canvas text, breakage?, hook?⟩
    let released := (s.armed st).release hooked
    let reply := (s.step st).1
    let made := (s.step st).2
    reply = verdict ((s.page.creationChecks canvas text).findSome? fun problem? => problem?) ∧
    (reply = .done ↔ (∃ settings, Settings.parse text = .ok settings) ∧
      s.page.window = true ∧ s.page.document = true ∧
      ∃ element, s.page.element? canvas = some element ∧ element.isCanvas = true) ∧
    (reply ≠ .done → made = released ∧
      (s.widget? = none → made = s.armed st ∧ made.journal = #[])) ∧
    (reply = .done → made.isRunning = false ∧ made.page.nextId = released.page.nextId ∧
      ∃ settings r, Settings.parse text = .ok settings ∧
        made.widget? = some ⟨released.nextOwner, some r, none, .ofRate settings.maxRate, false⟩ ∧
        r.canvas = canvas ∧ r.draws = s.page.draws canvas ∧
        r.scene = ((Scene.ofSettings settings).apply (.container (s.page.measured? canvas))).1 ∧
        (s.page.measured? canvas = none → r.scene = .ofSettings settings)) := by
  intro st released reply made
  have around : Around s.page released := Around.release (s := s.armed st) rfl
  have checks : released.page.creationChecks canvas text = s.page.creationChecks canvas text :=
    around.eq (fun page => page.creationChecks canvas text) fun _ => rfl
  have draws : released.page.draws canvas = s.page.draws canvas :=
    around.eq (fun page => page.draws canvas) fun _ => rfl
  have measured : released.page.measured? canvas = s.page.measured? canvas :=
    around.eq (fun page => page.measured? canvas) fun _ => rfl
  have answered : reply =
      verdict ((s.page.creationChecks canvas text).findSome? fun problem? => problem?) := by
    rw [← checks]
    exact create_reply hooked canvas text released
  have accepted : reply = .done ↔ _ :=
    answered ▸ verdict_eq_done_iff.trans (s.page.creationChecks_pass_iff canvas text)
  refine ⟨answered, accepted, fun refused => ?_, fun done => ?_⟩
  · have same : made = released := create_refused refused
    refine ⟨same, fun empty => ?_⟩
    have armed : made = s.armed st := same.trans (release_of_empty empty)
    exact ⟨armed, by rw [armed]; rfl⟩
  · obtain ⟨⟨settings, parsed⟩, found⟩ := accepted.mp done
    have sound : released.page.canvasProblem? canvas = none :=
      (around.eq (fun page => page.canvasProblem? canvas) fun _ => rfl).trans
        ((s.page.canvasProblem?_eq_none_iff canvas).mpr found)
    have mounted : made = released.mount hooked canvas settings :=
      congrArg Prod.snd (create_of_checked parsed sound)
    have vacant : Vacant released.page released.nextOwner released := ⟨rfl, rfl, rfl, rfl⟩
    obtain ⟨ready, kept, there⟩ := vacant.mount canvas settings
    rw [mounted, there, draws, measured]
    refine ⟨rfl, kept.nextId, settings, _, parsed, rfl, rfl, rfl, rfl, fun unmeasured => ?_⟩
    rw [unmeasured]
    rfl

end Session

end PositionMap
