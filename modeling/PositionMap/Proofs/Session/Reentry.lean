import PositionMap.Proofs.Session.Reach

/-! # Calls from inside of an effect

At any effect the page may call the map back, and at the effects of these calls again. A reaction
that does nothing else is one of `CallsBack`, to whatever depth it goes and however it chooses the
effects and the calls. The reaction by a hook is one of them. What every call keeps such a reaction
keeps, and a map whose renderer is lent out does not do more in a call than to log and to run its
loop.
-/

namespace PositionMap.Session

def Permits (allowed : Call → Prop) (hook? : Option Hook) : Prop :=
  ∀ hook, hook? = some hook → ∀ c ∈ hook.calls, allowed c

/-- The page takes its hook off or leaves it, and makes some calls, to which it reacts as told. -/
def Makes (allowed : Call → Prop) (inner : Reaction) (s later : Session) : Prop :=
  ∃ hook? calls, (hook? = none ∨ hook? = s.hook?) ∧
    (Permits allowed s.hook? → ∀ c ∈ calls, allowed c) ∧
    later = { s with hook? }.callEach inner calls

/-- The page does nothing on its own but call the map. Its calls are allowed if those of the hook
are. -/
inductive CallsBack (allowed : Call → Prop) : Reaction → Prop
  | quiet : CallsBack allowed quiet
  | calling {react : Reaction} (inner : String → Session → Reaction)
      (deeper : ∀ signal s, CallsBack allowed (inner signal s))
      (makes : ∀ signal s, Makes allowed (inner signal s) s (react signal s)) :
      CallsBack allowed react

variable {P : Session → Prop} {react : Reaction} {allowed : Call → Prop} {s : Session}

theorem callsBack_hooked (allowed : Call → Prop) : CallsBack allowed hooked := by
  refine .calling (fun _ _ => quiet) (fun _ _ => .quiet) fun signal s => ?_
  have nothing : Makes allowed quiet s s := ⟨s.hook?, [], .inr rfl, by simp, rfl⟩
  unfold hooked
  split
  · exact nothing
  · rename_i hook set
    split
    · exact ⟨none, hook.calls, .inl rfl, fun permitted => permitted hook set, rfl⟩
    · exact nothing

/-- What each call keeps, whatever the page does on its own meanwhile, the page keeps when it calls
back. -/
theorem CallsBack.keeps (unhook : ∀ s, P s → P { s with hook? := none })
    (answer : ∀ s hookReplies, P s → P { s with hookReplies })
    (permits : ∀ s, P s → Permits allowed s.hook?)
    (called : ∀ react, Keeps react P → ∀ c, allowed c → ∀ s, P s → P (s.call react c).2)
    (back : CallsBack allowed react) : Keeps react P := by
  induction back with
  | quiet => exact quiet_keeps P
  | calling inner deeper makes ih =>
      intro signal s h
      obtain ⟨hook?, calls, taken, permitted, made⟩ := makes signal s
      rw [made]
      refine callEach_keeps answer (fun c member => ?_) ?_
      · exact called _ (ih signal s) c (permitted (permits s h) c member)
      · rcases taken with rfl | rfl
        · exact unhook s h
        · exact h

/-! ## Busy maps -/

theorem lend_of_busy (busy : s.renderer? = none) (refuse : Session → Session)
    (use : Renderer → Session → Renderer × Session) : s.lend refuse use = refuse s := by
  simp [Session.lend, busy]

/-- While the renderer is lent out, a call does no more than to log and to run the loop. -/
theorem callMap_keeps_of_busy (c : Call) (busy : ∀ s, P s → s.renderer? = none)
    (logged : ∀ s entry, P s → P (s.log react entry))
    (ticks : (∀ s, P s → P (s.loopFrame react)) → ∀ time, P (s.tick react time).2)
    (starts : P (s.start react)) (stops : P (s.stop react)) (h : P s) :
    P (s.callMap react c).2 := by
  have refused : P (s.busyCall react) := logged s _ h
  have lent (use : Renderer → Session → Renderer × Session) :
      P (s.lend (busyCall react) use) := by
    rw [lend_of_busy (busy s h)]
    exact refused
  refine callMap_keeps c (fun entry => logged s entry h) (fun _ _ => lent _) (lent _) (lent _)
    (fun time _ => ticks (fun s h => ?_) time) (fun _ => starts) (fun _ => stops) h
  rw [Session.loopFrame, loopFrameBy, lend_of_busy (busy s h)]
  exact logged s _ h

theorem Circling.callMap_of_busy (circling : Circling P) (busy : ∀ s, P s → s.renderer? = none)
    (keeps : Keeps react P) (schedules : Schedules react P) (c : Call) (h : P s) :
    P (s.callMap react c).2 :=
  callMap_keeps_of_busy c busy (fun _ => circling.log keeps)
    (fun framed time => circling.tick framed schedules time h)
    (circling.start keeps schedules h) (circling.stop keeps h) h

end PositionMap.Session
