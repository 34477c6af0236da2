import PositionMap.Proofs.Session.Upkeep

/-! # Sessions that a page can get to

A session begins on a page without a map and goes on step by step. While no hook is set the page
does nothing on its own, so that whatever holds of such sessions is kept by its reaction.
-/

namespace PositionMap.Session

def opened (c : Page.Change) : Session :=
  .blank (Page.blank.change c)

def framed : Page.Change :=
  ⟨none, none, none, none, none, [("map", ⟨true, .drawing, some (10, 10)⟩)]⟩

def looped : List Step :=
  [⟨.create "map" "", none, none⟩, ⟨.call .start, none, none⟩, ⟨.call (.tick 16), none, none⟩]

@[simp] theorem run_cons (s : Session) (st : Step) (steps : List Step) :
    s.run (st :: steps) = (s.step st).2.run steps := rfl

def pending (s : Session) : List Request :=
  match s.widget? with
  | none => []
  | some w => s.page.queue.filter fun request => request.owner == w.owner

theorem pending_eq_nil_iff {s : Session} :
    s.pending = [] ↔
      ∀ w, s.widget? = some w → ∀ request ∈ s.page.queue, request.owner ≠ w.owner := by
  unfold pending
  split
  · rename_i found
    simp [found]
  · rename_i w found
    simp [found, List.filter_eq_nil_iff]

theorem isRunning_iff {s : Session} :
    s.isRunning = true ↔ ∃ w id, s.widget? = some w ∧ w.handle? = some id := by
  unfold isRunning Widget.running
  split
  · rename_i w found
    simp [found, Option.isSome_iff_exists]
  · rename_i found
    simp [found]

theorem isRunning_eq_false_iff {s : Session} :
    s.isRunning = false ↔ ∀ w, s.widget? = some w → w.handle? = none := by
  unfold isRunning Widget.running
  split
  · rename_i w found
    simp [found]
  · rename_i found
    simp [found]

theorem setElements_keeps {α : Type} {f : Page → α}
    (same : ∀ page id element, f (page.setElement id element) = f page)
    (elements : List (String × Element)) (page : Page) :
    f (elements.foldl (fun page (id, element) => page.setElement id element) page) = f page := by
  induction elements generalizing page with
  | nil => rfl
  | cons head elements ih => exact (ih _).trans (same page head.1 head.2)

theorem queue_change (page : Page) (c : Page.Change) : (page.change c).queue = page.queue :=
  setElements_keeps (f := Page.queue) (fun _ _ _ => rfl) c.elements _

theorem nextId_change (page : Page) (c : Page.Change) : (page.change c).nextId = page.nextId :=
  setElements_keeps (f := Page.nextId) (fun _ _ _ => rfl) c.elements _

theorem hooked_of_calm {s : Session} (calm : s.hook? = none) (signal : String) :
    hooked signal s = s := by
  simp [hooked, calm]

theorem hooked_keeps_of_calm {P : Session → Prop} (calm : ∀ s, P s → s.hook? = none) :
    Keeps hooked P := by
  intro signal s h
  rw [hooked_of_calm (calm s h)]
  exact h

/-- What is only about the hook is kept as long as the hook may be taken off. -/
theorem hook_lasting {p : Option Hook → Prop} (off : ∀ hook?, p hook? → p none) :
    Lasting fun s => p s.hook? where
  record _ _ _ h := h
  breakage _ _ h := h
  lending _ _ h := h
  pace _ _ h := h
  letGo _ _ h := h
  cancel _ _ h := h
  take _ h := h
  unhook s h := off s.hook? h
  answer _ _ h := h
  change _ _ h := h
  logging _ h := h
  leave _ h := h
  retire _ h := h
  install _ _ _ h := h

theorem calm_lasting : Lasting fun s => s.hook? = none :=
  hook_lasting (p := (· = none)) fun _ _ => rfl

theorem calm_keeps : Keeps hooked fun s => s.hook? = none :=
  hooked_keeps_of_calm fun _ h => h

theorem emit_of_calm {s : Session} (calm : s.hook? = none) (effect : Effect) :
    s.emit hooked effect = s.record effect :=
  hooked_of_calm (by simpa using calm) _

/-- The page and the map are the given ones, and the page does not call back. -/
structure Fixed (page : Page) (widget? : Option Widget) (s : Session) : Prop where
  calm : s.hook? = none
  page : s.page = page
  found : s.widget? = widget?

theorem fixed_steady (page : Page) (widget? : Option Widget) : Steady (Fixed page widget?) where
  record _ _ _ h := ⟨h.calm, h.page, h.found⟩
  breakage _ _ h := ⟨h.calm, h.page, h.found⟩

theorem Fixed.keeps {page : Page} {widget? : Option Widget} : Keeps hooked (Fixed page widget?) :=
  hooked_keeps_of_calm fun _ h => h.calm

/-! ## Owners -/

/-- Owners are given out in order: whoever made a request, or is there now, has an earlier one than
the next map. -/
structure Ordered (s : Session) : Prop where
  live : ∀ w, s.widget? = some w → w.owner < s.nextOwner
  waiting : ∀ request ∈ s.page.queue, request.owner < s.nextOwner

theorem Ordered.onWidget {s : Session} (ordered : Ordered s) {f : Widget → Widget}
    (same : ∀ w, (f w).owner = w.owner) : Ordered (s.onWidget f) where
  live := by
    intro w found
    obtain ⟨v, there, rfl⟩ := Option.map_eq_some_iff.mp found
    rw [same]
    exact ordered.live v there
  waiting := ordered.waiting

theorem ordered_lasting : Lasting Ordered where
  record _ _ _ h := ⟨h.live, h.waiting⟩
  breakage _ _ h := ⟨h.live, h.waiting⟩
  lending _ _ h := h.onWidget fun _ => rfl
  pace _ _ h := h.onWidget fun _ => rfl
  letGo _ _ h := h.onWidget fun _ => rfl
  cancel _ _ h := ⟨h.live, fun request member => h.waiting request (List.mem_filter.mp member).1⟩
  take _ h := ⟨h.live, by simp⟩
  unhook _ h := ⟨h.live, h.waiting⟩
  answer _ _ h := ⟨h.live, h.waiting⟩
  change s c h := ⟨h.live, by simpa [queue_change] using h.waiting⟩
  logging _ h := ⟨h.live, h.waiting⟩
  leave _ h := h.onWidget fun _ => rfl
  retire _ h := ⟨by simp, h.waiting⟩
  install s _ _ h := by
    refine ⟨?_, fun request member => Nat.lt_succ_of_lt (h.waiting request member)⟩
    rintro w ⟨⟩
    exact Nat.lt_succ_self s.nextOwner

theorem ordered_schedules (react : Reaction) (keeps : Keeps react Ordered) :
    Schedules react Ordered := by
  refine ordered_lasting.schedules keeps ?_ fun _ _ h => h.onWidget fun _ => rfl
  intro s w found h
  refine ⟨h.live, ?_⟩
  intro request member
  rcases List.mem_append.mp member with before | new
  · exact h.waiting request before
  · cases List.mem_singleton.mp new
    exact h.live w found

theorem Ordered.step {s : Session} (ordered : Ordered s) (st : Step) : Ordered (s.step st).2 :=
  ordered_lasting.step (fun _ _ h => ⟨h.live, h.waiting⟩) ordered_schedules st ordered

theorem ordered_run (c : Page.Change) (steps : List Step) : Ordered ((opened c).run steps) :=
  run_keeps (fun _ st ordered => ordered.step st) steps
    ⟨by simp [opened, blank], by simp [opened, blank, queue_change, Page.blank]⟩

end PositionMap.Session
