import PositionMap.Proofs.Session.Reach

/-! # Sessions without a drawing context

A map asks its canvas for a drawing context once, when it is made. If the canvases on which maps are
made never give one out, no map draws, and no step has a drawing command among its effects.
-/

namespace PositionMap

def Page.Change.Contextless (canvases : String → Prop) (c : Page.Change) : Prop :=
  ∀ entry ∈ c.elements, canvases entry.1 → entry.2.context ≠ .drawing

/-- Maps are only made on the canvases, and these do not come to give out a drawing context. -/
def Action.Contextless (canvases : String → Prop) : Action → Prop
  | change c => c.Contextless canvases
  | create canvas _ => canvases canvas
  | load | release | call _ => True

namespace Session

/-- The canvases do not give out a drawing context, the map has none, and nothing was drawn. -/
structure Undrawn (canvases : String → Prop) (s : Session) : Prop where
  elements : ∀ entry ∈ s.page.elements, canvases entry.1 → entry.2.context ≠ .drawing
  map : ∀ w r, s.widget? = some w → w.renderer? = some r → r.draws = false
  journal : ∀ command, .draw command ∉ s.journal

variable {react : Reaction} {s : Session} {canvases : String → Prop}

theorem Undrawn.record (undrawn : Undrawn canvases s) {effect : Effect}
    (other : ∀ command, effect ≠ .draw command) : Undrawn canvases (s.record effect) where
  elements := undrawn.elements
  map := undrawn.map
  journal command member := by
    rcases Array.mem_push.mp member with before | new
    · exact undrawn.journal command before
    · exact other command new.symm

theorem Undrawn.onWidget (undrawn : Undrawn canvases s) {f : Widget → Widget}
    (same : ∀ w, (f w).renderer? = w.renderer?) : Undrawn canvases (s.onWidget f) where
  elements := undrawn.elements
  map w r found held := by
    obtain ⟨v, there, rfl⟩ := Option.map_eq_some_iff.mp found
    exact undrawn.map v r there ((same v).symm.trans held)
  journal := undrawn.journal

theorem undrawn_fitting : Fitting (Undrawn canvases) where
  entry _ _ h := h.record (by simp)
  cancelled _ _ h := h.record (by simp)
  width _ _ h := h.record (by simp)
  height _ _ h := h.record (by simp)

theorem undrawn_circling : Circling (Undrawn canvases) where
  toVocal := undrawn_fitting.toVocal
  pace _ _ h := h.onWidget fun _ => rfl
  letGo _ _ h := h.onWidget fun _ => rfl
  cancel _ _ h := ⟨h.elements, h.map, h.journal⟩
  take _ h := ⟨h.elements, h.map, h.journal⟩

theorem Undrawn.schedules (keeps : Keeps react (Undrawn canvases)) :
    Schedules react (Undrawn canvases) := by
  refine undrawn_fitting.schedules keeps (fun s w _ h => ?_) fun _ _ h => h.onWidget fun _ => rfl
  have asked : Undrawn canvases { s with page := s.page.request w.owner } :=
    ⟨h.elements, h.map, h.journal⟩
  exact asked.record (by simp)

/-! ## Working with the renderer -/

theorem Undrawn.frame (keeps : Keeps react (Undrawn canvases)) {r : Renderer}
    (blind : r.draws = false) (undrawn : Undrawn canvases s) :
    (frame react r s).1.draws = false ∧ Undrawn canvases (frame react r s).2 := by
  have fitted := undrawn_fitting.fitCanvas keeps r undrawn
  have draws := (fitCanvas_draws react r s).trans blind
  unfold Session.frame
  split <;> rename_i found <;> rw [found] at fitted draws
  · rename_i back _
    have blind : back.draws = false := draws
    exact ⟨draws, by simpa [blind] using fitted⟩
  · exact ⟨draws, undrawn_fitting.log keeps _ fitted⟩

theorem Undrawn.refit (keeps : Keeps react (Undrawn canvases)) {r : Renderer}
    (blind : r.draws = false) (undrawn : Undrawn canvases s) :
    (refit react r s).1.draws = false ∧ Undrawn canvases (refit react r s).2 := by
  refine ⟨?_, undrawn_fitting.refit keeps r undrawn⟩
  rw [refit_fst]
  exact (fitCanvas_draws react r s).trans blind

theorem Undrawn.lend (undrawn : Undrawn canvases s) {refuse : Session → Session}
    {use : Renderer → Session → Renderer × Session} (refused : Undrawn canvases (refuse s))
    (used : ∀ r s, r.draws = false → Undrawn canvases s →
      (use r s).1.draws = false ∧ Undrawn canvases (use r s).2) :
    Undrawn canvases (s.lend refuse use) := by
  unfold Session.lend
  split
  · exact refused
  · rename_i r held
    obtain ⟨w, found, has⟩ := Option.bind_eq_some_iff.mp held
    have lent : Undrawn canvases (s.onWidget fun w => { w with renderer? := none }) := by
      refine ⟨undrawn.elements, fun v r there held => ?_, undrawn.journal⟩
      obtain ⟨u, _, rfl⟩ := Option.map_eq_some_iff.mp there
      simp at held
    obtain ⟨draws, after⟩ := used r _ (undrawn.map w r found has) lent
    refine ⟨after.elements, fun v back there held => ?_, after.journal⟩
    obtain ⟨u, _, rfl⟩ := Option.map_eq_some_iff.mp there
    cases held
    exact draws

theorem Undrawn.input (keeps : Keeps react (Undrawn canvases)) (undrawn : Undrawn canvases s)
    (i : Scene.Input) : Undrawn canvases (s.input react i) :=
  undrawn.lend (undrawn_fitting.log keeps _ undrawn)
    fun _ _ blind h => ⟨blind, undrawn_fitting.logAll keeps _ h⟩

theorem Undrawn.lend_frame (keeps : Keeps react (Undrawn canvases)) (undrawn : Undrawn canvases s)
    (text : String) : Undrawn canvases (s.lend (warn react text) (Session.frame react)) :=
  undrawn.lend (undrawn_fitting.log keeps _ undrawn) fun _ _ blind h => h.frame keeps blind

/-! ## Calls and steps -/

theorem Undrawn.call (keeps : Keeps react (Undrawn canvases)) (undrawn : Undrawn canvases s)
    (c : Call) : Undrawn canvases (s.call react c).2 := by
  have schedules := Undrawn.schedules keeps
  have resized : Undrawn canvases (s.resize react) :=
    undrawn.lend (undrawn_fitting.log keeps _ undrawn) fun _ _ blind h => h.refit keeps blind
  exact call_of_callMap (callMap_keeps c (fun entry => undrawn_fitting.log keeps entry undrawn)
    (fun i _ => undrawn.input keeps i) resized (undrawn.lend_frame keeps _)
    (fun time _ => undrawn_circling.tick (fun _ h => h.lend_frame keeps _) schedules time undrawn)
    (fun _ => undrawn_circling.start keeps schedules undrawn)
    (fun _ => undrawn_circling.stop keeps undrawn) undrawn) undrawn

theorem Undrawn.keeps : Keeps hooked (Undrawn canvases) :=
  hooked_keeps fun _ _ _ h => callBack_keeps (fun _ _ h => ⟨h.elements, h.map, h.journal⟩)
    (fun c _ _ h => h.call (quiet_keeps (Undrawn canvases)) c) ⟨h.elements, h.map, h.journal⟩

theorem Undrawn.draws (undrawn : Undrawn canvases s) {canvas : String} (own : canvases canvas) :
    s.page.draws canvas = false := by
  unfold Page.draws
  split
  · rename_i element found
    obtain ⟨before, after, split, _⟩ := List.lookup_eq_some_iff.mp found
    have member : (canvas, element) ∈ s.page.elements := by simp [split]
    simpa using undrawn.elements _ member own
  · rfl

theorem elements_setElements (elements : List (String × Element)) (page : Page) :
    ∀ entry ∈ (elements.foldl (fun page (id, element) => page.setElement id element) page).elements,
      entry ∈ elements ∨ entry ∈ page.elements := by
  induction elements generalizing page with
  | nil => exact fun entry member => .inr member
  | cons head elements ih =>
      intro entry member
      rcases ih (page.setElement head.1 head.2) entry member with later | before
      · exact .inl (List.mem_cons_of_mem _ later)
      · rcases List.mem_cons.mp before with rfl | old
        · exact .inl List.mem_cons_self
        · exact .inr old

theorem Undrawn.change (undrawn : Undrawn canvases s) {c : Page.Change}
    (contextless : c.Contextless canvases) :
    Undrawn canvases { s with page := s.page.change c } where
  elements entry member := by
    rcases elements_setElements c.elements _ entry member with new | old
    · exact contextless entry new
    · exact undrawn.elements entry old
  map := undrawn.map
  journal := undrawn.journal

theorem Undrawn.release (undrawn : Undrawn canvases s) : Undrawn canvases (s.release hooked) := by
  have leaving : Undrawn canvases (s.onWidget fun w => { w with leaving := true }) :=
    undrawn.onWidget fun _ => rfl
  have stopped := undrawn_circling.stop Undrawn.keeps leaving
  exact ⟨stopped.elements, by simp [Session.release], stopped.journal⟩

theorem Undrawn.mount (undrawn : Undrawn canvases s) {canvas : String} (own : canvases canvas)
    (settings : Settings) : Undrawn canvases (s.mount hooked canvas settings) := by
  obtain ⟨ready, r, kept, blind, _, mounted⟩ :=
    undrawn_fitting.mount_eq Undrawn.keeps canvas settings undrawn
  rw [mounted]
  refine ⟨kept.elements, ?_, kept.journal⟩
  rintro w back ⟨⟩ ⟨⟩
  exact blind.trans (undrawn.draws own)

theorem Undrawn.act (undrawn : Undrawn canvases s) {action : Action}
    (contextless : action.Contextless canvases) : Undrawn canvases (s.act hooked action).2 := by
  cases action with
  | change c => exact undrawn.change contextless
  | load =>
      have shown : Undrawn canvases { s with logging := true } :=
        ⟨undrawn.elements, undrawn.map, undrawn.journal⟩
      simp only [Session.act, Session.load]
      split
      · exact undrawn
      · exact undrawn_fitting.log Undrawn.keeps _ shown
  | create canvas settings =>
      simp only [Session.act, Session.create]
      split
      · exact undrawn.release
      · split
        · exact undrawn.release
        · exact undrawn.release.mount contextless _
  | release => exact undrawn.release
  | call c => exact undrawn.call Undrawn.keeps c

/-- A step of a session without drawing contexts draws nothing, hooks or not. -/
theorem Undrawn.run (undrawn : Undrawn canvases s) (steps : List Step)
    (contextless : ∀ st ∈ steps, st.action.Contextless canvases) :
    Undrawn canvases (s.run steps) := by
  induction steps generalizing s with
  | nil => exact undrawn
  | cons st steps ih =>
      have armed : Undrawn canvases (s.armed st) :=
        ⟨undrawn.elements, undrawn.map, by simp [Session.armed]⟩
      exact ih (armed.act (contextless st List.mem_cons_self))
        fun later member => contextless later (List.mem_cons_of_mem _ member)

theorem undrawn_opened {c : Page.Change} (contextless : c.Contextless canvases) :
    Undrawn canvases (opened c) := by
  have blank : Undrawn canvases (.blank Page.blank) :=
    ⟨by simp [blank, Page.blank], by simp [blank], by simp [blank]⟩
  exact blank.change contextless

end Session

end PositionMap
