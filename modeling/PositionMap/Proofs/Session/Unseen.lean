import Mathlib.Logic.Basic
import PositionMap.Proofs.Session.Twins

/-! # What the picture does not show

A picture shows neither whether the map is connected nor the last fix. What only changes these - a
report without a reference, a change of the connection - and what is refused may therefore be put
into a session anywhere: every other step requests, cancels, logs and draws what it did without it,
and answers the same, unless it asks for just these two.
-/

namespace PositionMap

namespace Scene

def shown (s : Scene) : Scene :=
  { s with connected := false, fix? := none }

def LooksLike (a b : Scene) : Prop :=
  a.shown = b.shown

/-- Whatever comes out the same for what is shown is the same. -/
theorem LooksLike.same {α : Type} {a b : Scene} (alike : a.LooksLike b) (f : Scene → α)
    (shows : ∀ s, f s.shown = f s) : f a = f b := by
  rw [← shows a, ← shows b, show a.shown = b.shown from alike]

theorem hear_shown (s : Scene) (notice : Notice) :
    (s.shown.hear notice).2 = (s.hear notice).2 ∧
      (s.shown.hear notice).1.shown = (s.hear notice).1.shown := by
  cases notice <;> exact ⟨rfl, rfl⟩

theorem LooksLike.hear {a b : Scene} (alike : a.LooksLike b) (notice : Notice) :
    (a.hear notice).2 = (b.hear notice).2 ∧ (a.hear notice).1.LooksLike (b.hear notice).1 :=
  ⟨alike.same (fun s => (s.hear notice).2) fun s => (hear_shown s notice).1,
    alike.same (fun s => (s.hear notice).1.shown) fun s => (hear_shown s notice).2⟩

theorem LooksLike.hearAll {a b : Scene} (alike : a.LooksLike b) (notices : List Notice) :
    (a.hearAll notices).2 = (b.hearAll notices).2 ∧
      (a.hearAll notices).1.LooksLike (b.hearAll notices).1 := by
  induction notices generalizing a b with
  | nil => exact ⟨rfl, alike⟩
  | cons notice notices ih =>
      obtain ⟨entries, after⟩ := alike.hear notice
      obtain ⟨more, later⟩ := ih after
      exact ⟨by simp only [Scene.hearAll, entries, more], later⟩

theorem fit_shown (s : Scene) (m : Measurement) :
    (s.shown.fit m).2 = (s.fit m).2 ∧ (s.shown.fit m).1.shown = (s.fit m).1.shown := by
  have same : s.shown.differs m = s.differs m := rfl
  unfold fit
  rw [same]
  split <;> exact ⟨rfl, rfl⟩

theorem LooksLike.fit {a b : Scene} (alike : a.LooksLike b) (m : Measurement) :
    (a.fit m).2 = (b.fit m).2 ∧ (a.fit m).1.LooksLike (b.fit m).1 :=
  ⟨alike.same (fun s => (s.fit m).2) fun s => (fit_shown s m).1,
    alike.same (fun s => (s.fit m).1.shown) fun s => (fit_shown s m).2⟩

theorem looksLike_likeness : Likeness LooksLike where
  refl _ := rfl
  differs _ _ m alike := alike.same (fun s => s.differs m) fun _ => rfl
  picture _ _ alike := alike.same Scene.picture fun _ => rfl
  apply a b input alike := by
    cases input with
    | position p => exact alike.hear (.position p)
    | originReset => exact alike.hear .originReset
    | scale value =>
        exact ⟨rfl, alike.same (fun s => (s.setScale value).shown) fun _ => rfl⟩
    | size m => exact alike.fit m
    | container measured? =>
        cases measured? with
        | none => exact ⟨rfl, alike⟩
        | some m => exact alike.fit m
    | fix fix => exact alike.hear (.fix fix)
    | connection connected => exact alike.hear (.connection connected)
    | event event => exact alike.hearAll event.notices

end Scene

/-- Whether an event tells nothing that a picture shows: a report without a reference, and whether
the other side is connected. -/
def Event.unseen : Event → Bool
  | report r => !r.hasReference
  | referenceReset => false
  | connection _ => true

def Call.unseen : Call → Bool
  | .connection _ => true
  | .event name payload =>
      match Event.decode name payload with
      | .ok told => told.unseen
      | .error _ => true
  | _ => false

def Call.asksUnseen : Call → Bool
  | isConnected | fixStatus | satellites => true
  | _ => false

def Action.asksUnseen : Action → Bool
  | call c => c.asksUnseen
  | _ => false

/-- The page hands the map something that no picture shows, and does not call back. -/
structure Step.Unseen (st : Step) : Prop where
  calm : st.hook? = none
  call : ∃ c, st.action = .call c ∧ c.unseen = true

theorem Scene.looksLike_of_unseen (s : Scene) {event : Event} (unseen : event.unseen = true) :
    s.LooksLike (s.apply (.event event)).1 := by
  cases event with
  | report r =>
      have unreferenced : r.hasReference = false := by simpa [Event.unseen] using unseen
      simp only [Scene.apply, Event.notices, unreferenced]
      rfl
  | referenceReset => cases unseen
  | connection connected => rfl

theorem Call.shared_of_seen {c : Call} (seen : c.asksUnseen = false) :
    c.Shared Scene.LooksLike := by
  intro reading reads a b alike
  refine alike.same reading fun s => ?_
  cases c <;> cases reads <;> first | rfl | cases seen

namespace Session

/-! ## Putting a step in -/

structure Aside (s t : Session) : Prop extends Matched Scene.LooksLike s t where
  calm : t.hook? = none

variable {s t : Session}

theorem aside_vocal (s : Session) : Vocal (Aside s) where
  entry _ _ h := ⟨⟨h.page, h.logging, h.nextOwner, h.maps⟩, h.calm⟩
  cancelled _ _ h := ⟨⟨h.page, h.logging, h.nextOwner, h.maps⟩, h.calm⟩

theorem aside_keeps (s : Session) : Keeps hooked (Aside s) :=
  hooked_keeps_of_calm fun _ h => h.calm

theorem giveBack_lent {r : Renderer} (held : s.renderer? = some r) :
    (s.onWidget fun w => { w with renderer? := none }).onWidget
      (fun w => { w with renderer? := some r }) = s := by
  obtain ⟨w, found, has⟩ := Option.bind_eq_some_iff.mp held
  cases s
  cases found
  simp only [onWidget, Option.map_some, ← has]

/-- An input that no picture shows only logs. -/
theorem Aside.input (aside : Aside s t) {i : Scene.Input}
    (unseen : ∀ scene : Scene, scene.LooksLike (scene.apply i).1) :
    Aside s (t.input hooked i) := by
  unfold Session.input Session.lend
  rcases aside.renderers with ⟨_, has⟩ | ⟨r, scene, held, has, alike⟩
  · rw [has]
    exact (aside_vocal s).log (aside_keeps s) _ aside
  · have lent : Aside (s.onWidget fun w => { w with renderer? := none })
        (t.onWidget fun w => { w with renderer? := none }) := ⟨aside.toMatched.lent, aside.calm⟩
    have logged := (aside_vocal _).logAll (aside_keeps _) (scene.apply i).2 lent
    have returned := logged.toMatched.giveBack r (alike.trans (unseen scene))
    rw [giveBack_lent held] at returned
    rw [has]
    exact ⟨returned, logged.calm⟩

theorem Aside.step (matched : Matched Scene.LooksLike s t) {st : Step} (unseen : st.Unseen) :
    Matched Scene.LooksLike s (t.step st).2 := by
  obtain ⟨c, called, silent⟩ := unseen.call
  have aside : Aside s (t.armed st) :=
    ⟨⟨matched.page, matched.logging, matched.nextOwner, matched.maps⟩, unseen.calm⟩
  suffices Aside s ((t.armed st).call hooked c).2 by
    unfold Session.step
    rw [called]
    exact this.toMatched
  refine call_of_callMap ?_ aside
  cases c <;> first | cases silent | skip
  case connection connected => exact aside.input (i := .connection connected) fun _ => rfl
  case event name payload =>
    change Aside s ((t.armed st).event hooked name payload).2
    unfold Session.event
    cases decoded : Event.decode name payload with
    | error refusal => exact (aside_vocal s).log (aside_keeps s) _ aside
    | ok told =>
        have quiet : told.unseen = true := by simpa [Call.unseen, decoded] using silent
        exact aside.input fun scene => scene.looksLike_of_unseen quiet

/-! ## Sessions -/

/-- What is to be seen of a session, step by step: an answer, unless it is about something that no
picture shows, and the effects. Before each step that is looked at there may be others. -/
def seen : Session → List (List Step × Step) → List (Option Reply × List Effect)
  | _, [] => []
  | s, (before, st) :: rest =>
      let stepped := (s.run before).step st
      (if st.action.asksUnseen then none else some stepped.1, stepped.2.journal.toList) ::
        stepped.2.seen rest

theorem Matched.runUnseen (matched : Matched Scene.LooksLike s t) {steps : List Step}
    (unseen : ∀ st ∈ steps, st.Unseen) : Matched Scene.LooksLike s (t.run steps) := by
  induction steps generalizing t with
  | nil => exact matched
  | cons st steps ih =>
      exact ih (Aside.step matched (unseen st List.mem_cons_self))
        fun later member => unseen later (List.mem_cons_of_mem _ member)

theorem Matched.seen (matched : Matched Scene.LooksLike s t) {blocks : List (List Step × Step)}
    (unseen : ∀ block ∈ blocks, ∀ st ∈ block.1, st.Unseen) :
    s.seen (blocks.map fun block => ([], block.2)) = t.seen blocks := by
  induction blocks generalizing s t with
  | nil => rfl
  | cons block blocks ih =>
      have before := matched.runUnseen (unseen block List.mem_cons_self)
      obtain ⟨replies, after⟩ := before.step Scene.looksLike_likeness (fun _ => true) block.2
      have rest := ih after.toMatched
        fun later member => unseen later (List.mem_cons_of_mem _ member)
      have journal : (s.step block.2).2.journal.toList =
          ((t.run block.1).step block.2).2.journal.toList := by
        have counted := after.journal
        rwa [List.filter_eq_self.mpr fun _ _ => rfl, List.filter_eq_self.mpr fun _ _ => rfl]
          at counted
      have answer : (if block.2.action.asksUnseen then none else some (s.step block.2).1) =
          if block.2.action.asksUnseen then none else some ((t.run block.1).step block.2).1 := by
        cases asks : block.2.action.asksUnseen with
        | true => rfl
        | false => exact congrArg some (replies fun c called => Call.shared_of_seen (by
            simpa [Action.asksUnseen, called] using asks))
      exact congrArg₂ List.cons (congrArg₂ Prod.mk answer journal) rest

/-- In a session, any reports without a reference, changes of the connection and refused events may
be put in before any of its steps: the answers but those about the connection and the fix, and all
effects of its own steps, remain what they were. -/
theorem seen_of_unseen (c : Page.Change) (blocks : List (List Step × Step))
    (unseen : ∀ block ∈ blocks, ∀ st ∈ block.1, st.Unseen) :
    (opened c).seen blocks = (opened c).seen (blocks.map fun block => ([], block.2)) := by
  have same : Matched Scene.LooksLike (opened c) (opened c) := ⟨rfl, rfl, rfl, .none⟩
  exact (same.seen unseen).symm

def bareReport : Call :=
  .event "gps_update" "\x7b\"pvt\": \x7b\"fix_status\": \"Active\"\x7d\x7d"

/-- Between the steps of a session there come such a report, changes of the connection and an event
that nobody knows. -/
theorem seen_of_bareReport :
    let put (c : Call) : Step := ⟨.call c, none, none⟩
    let blocks := [([], looped[0]), ([put bareReport, put (.connection true)], looped[1]),
      ([put (.event "disconnect" ""), put (.event "weather" "rain")], looped[2])]
    (opened framed).seen blocks = (opened framed).seen (blocks.map fun block => ([], block.2)) ∧
      ((opened framed).run (blocks.flatMap fun block => block.1 ++ [block.2])).read none
        Scene.fixStatus = some "Active" := by
  intro put blocks
  refine ⟨seen_of_unseen framed blocks ?_, by decide +kernel⟩
  have silent (c : Call) (unseen : c.unseen = true) : (put c).Unseen := ⟨rfl, c, rfl, unseen⟩
  have reported : bareReport.unseen = true := by decide +kernel
  have connected : (Call.connection true).unseen = true := rfl
  have lost : (Call.event "disconnect" "").unseen = true := by decide +kernel
  have unknown : (Call.event "weather" "rain").unseen = true := by decide +kernel
  simp [blocks, silent, reported, connected, lost, unknown]

end Session

end PositionMap
