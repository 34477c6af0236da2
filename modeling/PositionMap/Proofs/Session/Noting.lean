import PositionMap.Proofs.Session.Reentry
import PositionMap.Proofs.Session.Twins

/-! # A page that notes when it is measured

The journal of a step says what a map does to its page, but not what it asks the page for. Here the
page notes each time that it is asked for the size of a container, in the calls of its hook, too.
Frame requests are numbered from 1 on, so that a request 0 can stand for such a note. Taking notes
changes nothing: the same step ends in the same session, with the same journal but for the notes.
-/

namespace PositionMap

namespace Effect

def note : Effect := .requested 0

def isNote : Effect → Bool
  | requested 0 => true
  | _ => false

end Effect

namespace Session

def measuring : String := "getBoundingClientRect"

/-- A page that takes notes, and does nothing else on its own. -/
def noted : Reaction := fun signal s =>
  if signal = measuring then s.record .note else s

/-- A page with a hook that takes notes. -/
def noting : Reaction := fun signal s =>
  let s := s.noted signal
  match s.hook? with
  | none => s
  | some hook =>
    if hook.signal = signal then { s with hook? := none }.callEach noted hook.calls else s

def notedStep (s : Session) (st : Step) : Reply × Session :=
  (s.armed st).act noting st.action

variable {P : Session → Prop} {react : Reaction} {s t : Session}

/-! ## Notes change nothing -/

theorem eq_likeness : Likeness Eq where
  refl _ := rfl
  apply := by rintro a _ input rfl; exact ⟨rfl, rfl⟩
  differs := by rintro a _ m rfl; rfl
  picture := by rintro a _ rfl; rfl

theorem holding_held {w : Widget} {r : Renderer} (held : w.renderer? = some r) :
    w.holding (some (r.showing r.scene)) = w := by
  cases w
  cases held
  rfl

theorem sameMaps_self (w? : Option Widget) : SameMaps Eq w? w? := by
  cases w? with
  | none => exact .none
  | some w =>
      cases held : w.renderer? with
      | none => exact .busy held
      | some r =>
          have free : SameMaps Eq (some w) _ := SameMaps.free held rfl
          rwa [holding_held held] at free

theorem SameMaps.eq {w? v? : Option Widget} (same : SameMaps Eq w? v?) : w? = v? := by
  cases same with
  | none => rfl
  | busy _ => rfl
  | free held alike =>
      subst alike
      rw [holding_held held]

abbrev counts (effect : Effect) : Bool :=
  !effect.isNote

theorem Twins.noted (twins : Twins Eq counts s t) (signal : String) :
    Twins Eq counts s (t.noted signal) := by
  unfold Session.noted
  split
  · refine ⟨⟨twins.page, twins.logging, twins.nextOwner, twins.maps⟩, twins.breakage, twins.hook, ?_⟩
    rw [twins.journal]
    simp [Session.record, Effect.note, Effect.isNote]
  · exact twins

theorem answers_noted : Answers Eq counts quiet noted :=
  fun signal _ _ twins => twins.noted signal

theorem answers_noting : Answers Eq counts hooked noting := by
  intro signal s t twins
  have noted := twins.noted signal
  unfold hooked noting
  dsimp only
  rw [← noted.hook]
  cases set : s.hook? with
  | none => exact noted
  | some hook =>
      by_cases fires : hook.signal = signal
      · simp only [fires, if_true, callBack]
        exact noted.unhook.callEach eq_likeness answers_noted hook.calls
      · simpa only [fires, if_false] using noted

/-- The journal holds no note, and none of the requests to come is taken for one. -/
structure Unnoted (s : Session) : Prop where
  numbered : 0 < s.page.nextId
  journal : ∀ effect ∈ s.journal.toList, effect.isNote = false

theorem Unnoted.record (unnoted : Unnoted s) {effect : Effect} (other : effect.isNote = false) :
    Unnoted (s.record effect) where
  numbered := unnoted.numbered
  journal := by
    intro e member
    have member : e ∈ s.journal.toList ∨ e = effect := by simpa [Session.record] using member
    rcases member with before | rfl
    · exact unnoted.journal e before
    · exact other

theorem unnoted_lasting : Lasting Unnoted where
  record s effect free h := h.record (by cases effect <;> first | rfl | cases free)
  breakage _ _ h := ⟨h.numbered, h.journal⟩
  lending _ _ h := ⟨h.numbered, h.journal⟩
  pace _ _ h := ⟨h.numbered, h.journal⟩
  letGo _ _ h := ⟨h.numbered, h.journal⟩
  cancel _ _ h := ⟨h.numbered, h.journal⟩
  take _ h := ⟨h.numbered, h.journal⟩
  unhook _ h := ⟨h.numbered, h.journal⟩
  answer _ _ h := ⟨h.numbered, h.journal⟩
  change s c h := ⟨by simpa [nextId_change] using h.numbered, h.journal⟩
  logging _ h := ⟨h.numbered, h.journal⟩
  leave _ h := ⟨h.numbered, h.journal⟩
  retire _ h := ⟨h.numbered, h.journal⟩
  install _ _ _ h := ⟨h.numbered, h.journal⟩

theorem isNote_requested {id : Nat} (numbered : 0 < id) :
    (Effect.requested id).isNote = false := by
  cases id with
  | zero => cases numbered
  | succ id => rfl

theorem unnoted_schedules (keeps : Keeps react Unnoted) : Schedules react Unnoted := by
  refine unnoted_lasting.schedules keeps (fun s w _ h => ?_) fun _ _ h => ⟨h.numbered, h.journal⟩
  have asked : Unnoted { s with page := s.page.request w.owner } :=
    ⟨Nat.succ_pos _, h.journal⟩
  exact asked.record (isNote_requested h.numbered)

theorem unnoted_run (c : Page.Change) (steps : List Step) : Unnoted ((opened c).run steps) := by
  have arm (s : Session) (st : Step) (h : Unnoted s) : Unnoted (s.armed st) :=
    ⟨h.numbered, by simp [armed]⟩
  refine run_keeps (fun s st h => unnoted_lasting.step arm (fun _ => unnoted_schedules) st h) steps
    ⟨?_, by simp [opened, blank]⟩
  simp [opened, blank, nextId_change, Page.blank]

structure Noted (s : Session) (st : Step) : Prop where
  reply : (s.notedStep st).1 = (s.step st).1
  page : (s.notedStep st).2.page = (s.step st).2.page
  widget : (s.notedStep st).2.widget? = (s.step st).2.widget?
  journal : (s.notedStep st).2.journal.toList.filter counts = (s.step st).2.journal.toList

theorem noted_step (numbered : 0 < s.page.nextId) (st : Step) : Noted s st := by
  have same : Matched Eq s s := ⟨rfl, rfl, rfl, sameMaps_self s.widget?⟩
  obtain ⟨replies, twins⟩ := (same.armed counts st).act eq_likeness answers_noting st.action
  have unnoted : Unnoted (s.step st).2 :=
    unnoted_lasting.step (fun _ _ h => ⟨h.numbered, by simp [armed]⟩) (fun _ => unnoted_schedules)
      st (s := { s with journal := #[] }) ⟨numbered, by simp⟩
  have kept : (s.step st).2.journal.toList.filter counts = (s.step st).2.journal.toList :=
    List.filter_eq_self.mpr fun effect member => by simp [unnoted.journal effect member]
  have shared (c : Call) (_ : st.action = .call c) : c.Shared Eq := by
    rintro reading _ a _ rfl
    rfl
  exact ⟨(replies shared).symm, twins.page.symm, twins.maps.eq.symm, twins.journal.symm.trans kept⟩

/-! ## Signals that are no measurement -/

/-- A page that reacts as told, except that it does not get to know that it is measured. -/
def deaf (react : Reaction) : Reaction := fun signal s =>
  if signal = measuring then s else react signal s

theorem name_ne_measuring (effect : Effect) : effect.name ≠ measuring := by
  cases effect with
  | draw command => cases command <;> simp [Effect.name, Canvas.Command.name, measuring]
  | _ => simp [Effect.name, measuring]

theorem emit_deaf (react : Reaction) (effect : Effect) : emit (deaf react) effect = emit react effect :=
  funext fun _ => if_neg (name_ne_measuring effect)

theorem log_deaf (react : Reaction) : log (deaf react) = log react := by
  funext s entry
  simp only [log, emit_deaf]

theorem logAll_deaf (react : Reaction) : logAll (deaf react) = logAll react := by
  funext s entries
  simp only [logAll, log_deaf]

theorem schedule_deaf (react : Reaction) : schedule (deaf react) = schedule react := by
  funext s
  simp only [schedule, emit_deaf, log_deaf, warn]

theorem start_deaf (react : Reaction) : start (deaf react) = start react := by
  funext s
  simp only [start, schedule_deaf, info, log_deaf]

theorem stop_deaf (react : Reaction) : stop (deaf react) = stop react := by
  funext s
  simp only [stop, cancelRequest, emit_deaf, info, warn, log_deaf]

/-- While the renderer is lent out, no call measures the page. -/
theorem Circling.callMap_of_deaf (circling : Circling P) (busy : ∀ s, P s → s.renderer? = none)
    (keeps : Keeps (deaf react) P) (schedules : Schedules (deaf react) P) (c : Call) (h : P s) :
    P (s.callMap react c).2 := by
  have logged (s : Session) (entry : Entry) (h : P s) : P (s.log react entry) := by
    rw [← log_deaf]
    exact circling.log keeps entry h
  have started := circling.start keeps schedules h
  have stopped := circling.stop keeps h
  rw [start_deaf] at started
  rw [stop_deaf] at stopped
  rw [Schedules, schedule_deaf] at schedules
  exact callMap_keeps_of_busy c busy logged
    (fun framed time => circling.tick framed schedules time h) started stopped h

end Session

end PositionMap
