import PositionMap.Proofs.Picture.Drawing
import PositionMap.Proofs.Picture.Independence

/-! # What a drawing puts aside and brings back

An outlook on the canvas also counts what was put aside. A list of commands guards the canvas when
none of its calls leaves anything aside or the base changed, should it be the one that is refused. All
of a picture guards the canvas but the disc of the marker: it is drawn with a shadow, between putting
the pen aside and bringing it back. If its circle is refused the pen stays aside, and the canvas keeps
the shadow.
-/

namespace PositionMap

open Canvas

namespace Canvas

theorem calls_cons (call : String) (command : Command) (commands : List Command) :
    calls call (command :: commands) = calls call [command] + calls call commands := by
  rw [← List.singleton_append, calls, List.countP_append]
  rfl

namespace Outlook

/-- Nothing is put aside, and the base is as it was. -/
def tidy (o : Outlook) : Bool :=
  o.saved.isEmpty && o.pen.base

/-- The commands are accepted, and each of their calls that may be refused leaves the canvas tidy. -/
def guards (o : Outlook) : List Command → Bool
  | [] => true
  | command :: commands =>
    match o.step command with
    | none => false
    | some next => (!command.fallible || next.tidy) && next.guards commands

variable {o middle later : Outlook} {command last : Command} {commands first front rest : List Command}

theorem calls_of_step (accepted : o.step command = some later) :
    calls "save" [command] + o.saved.length = calls "restore" [command] + later.saved.length := by
  cases command with
  | save =>
      cases accepted
      simp [calls, Command.name, Nat.add_comm]
  | restore =>
      cases aside : o.saved with
      | nil => simp [step, aside] at accepted
      | cons k ks =>
          obtain rfl : { o with pen := k, saved := ks } = later := by
            simpa [step, aside] using accepted
          simp [calls, Command.name, Nat.add_comm]
  | clip | fillRect | fill | stroke | fillText =>
      obtain ⟨_, same⟩ := Option.ite_none_right_eq_some.mp accepted
      cases same
      rfl
  | _ => cases accepted; rfl

/-- What was put aside and not brought back is aside. -/
theorem calls_of_after (accepted : o.after commands = some later) :
    calls "save" commands + o.saved.length = calls "restore" commands + later.saved.length := by
  induction commands generalizing o with
  | nil =>
      cases accepted
      rfl
  | cons command commands ih =>
      obtain ⟨next, stepped, rest⟩ := Option.bind_eq_some_iff.mp accepted
      have one := calls_of_step stepped
      have others := ih rest
      rw [calls_cons "save", calls_cons "restore"]
      omega

theorem guards_append (begun : o.after first = some middle) (second : List Command) :
    o.guards (first ++ second) = (o.guards first && middle.guards second) := by
  induction first generalizing o with
  | nil =>
      cases begun
      rfl
  | cons command first ih =>
      obtain ⟨next, stepped, later⟩ := Option.bind_eq_some_iff.mp begun
      simp [guards, stepped, ih later, Bool.and_assoc]

theorem guards_flatMap {α : Type} {f : α → List Command} (xs : List α)
    (kept : ∀ x, o.after (f x) = some o) (each : ∀ x, o.guards (f x) = true) :
    o.guards (xs.flatMap f) = true := by
  induction xs with
  | nil => rfl
  | cons x xs ih => rw [List.flatMap_cons, guards_append (kept x), each, ih, Bool.true_and]

/-- Commands none of which may be refused guard any canvas on which they are accepted. -/
theorem guards_of_after (accepted : o.after commands = some later)
    (sure : ∀ command ∈ commands, command.fallible = false) : o.guards commands = true := by
  induction commands generalizing o with
  | nil => rfl
  | cons command commands ih =>
      obtain ⟨next, stepped, rest⟩ := Option.bind_eq_some_iff.mp accepted
      have others := ih rest fun later member => sure later (List.mem_cons_of_mem _ member)
      simp [guards, stepped, sure command List.mem_cons_self, others]

/-- A call that is refused leaves a canvas tidy that the commands guard. -/
theorem tidy_of_guards (guarded : o.guards (front ++ last :: rest) = true)
    (fallible : last.fallible = true) :
    ∃ later, o.after (front ++ [last]) = some later ∧ later.tidy = true := by
  induction front generalizing o with
  | nil =>
      unfold guards at guarded
      cases stepped : o.step last with
      | none => simp [stepped] at guarded
      | some next =>
          have tidy : next.tidy = true := by simp_all
          exact ⟨next, by simp [after, stepped], tidy⟩
  | cons command front ih =>
      rw [List.cons_append] at guarded
      unfold guards at guarded
      cases stepped : o.step command with
      | none => simp [stepped] at guarded
      | some next =>
          obtain ⟨later, accepted, tidy⟩ := ih (o := next) (by simp_all)
          exact ⟨later, by simp [after, stepped, accepted], tidy⟩

end Outlook

end Canvas

namespace Picture

/-- The marker up to the circle of its disc. -/
def opening : List Command :=
  [.save, .shadowColor Style.markerShadow, .shadowBlur Style.markerShadowBlur,
    .shadowOffsetX 0, .shadowOffsetY Style.markerShadowOffsetY, .fillStyle Style.markerFill,
    .beginPath]

def closing (center : Point) : List Command :=
  [.fill, .strokeStyle Style.markerOutline, .lineWidth Style.axisLineWidth, .stroke, .restore,
    .fillStyle Style.markerOutline] ++ disc center Style.markerCenterRadius

theorem marker_eq (center : Point) :
    marker center = opening ++ circle center Style.markerRadius :: closing center := rfl

/-! ## What guards the canvas -/

theorem guards_grid (v : View) : (onGround false).guards (grid v) = true := by
  obtain ⟨path, accepted⟩ := after_grid v
  refine Outlook.guards_of_after accepted fun command member => ?_
  rcases mem_grid member with rfl | rfl | line
  · rfl
  · rfl
  · cases line <;> rfl

theorem guards_axes (v : View) (path : Bool) : (onGrid path).guards (axes v) = true := rfl

theorem guards_polyline (v : View) (first : Point) (rest : List Point) :
    clipped.guards (polyline v first rest) = true := by
  refine Outlook.guards_of_after (after_polyline v first rest) fun command member => ?_
  cases ofLine_of_mem_polyline member <;> rfl

/-- The clip and the caps and joins of the line are gone before the dots. -/
theorem guards_trail (v : View) (points : List Point) : settled.guards (trail v points) = true := by
  cases points with
  | nil => rfl
  | cons first rest =>
      have dotted : settled.guards (dots v (first :: rest)) = true :=
        Outlook.guards_flatMap _ (fun _ => rfl) fun _ => rfl
      rw [trail_cons, Outlook.guards_append (after_entering v),
        Outlook.guards_append (after_polyline v first rest), Outlook.guards_append after_leaving,
        guards_polyline, dotted]
      rfl

theorem guards_beneath (s : Scene) : Outlook.start.guards (beneath s) = true := by
  obtain ⟨path, grid⟩ := after_grid s.view
  unfold beneath ground
  rw [List.append_assoc, List.append_assoc, Outlook.guards_append (after_background s),
    Outlook.guards_append grid, Outlook.guards_append (after_axes s.view path), guards_grid,
    guards_axes, guards_trail]
  rfl

theorem after_opening (s : Scene) : Outlook.start.after (beneath s ++ opening) = some clipped := by
  rw [Outlook.after_of_after (after_beneath s)]
  rfl

theorem guards_opening (s : Scene) : Outlook.start.guards (beneath s ++ opening) = true := by
  rw [Outlook.guards_append (after_beneath s), guards_beneath]
  rfl

theorem guards_closing (center : Point) : clipped.guards (closing center) = true := rfl

end Picture

theorem cases_of_split {α : Type} {front rest before after : List α} {last middle : α}
    (split : front ++ last :: rest = before ++ middle :: after) :
    (∃ between, before = front ++ last :: between) ∨ (front = before ∧ last = middle) ∨
      ∃ between, front = before ++ middle :: between ∧ after = between ++ last :: rest := by
  rcases List.append_eq_append_iff.mp split with ⟨between, ahead, tail⟩ | ⟨between, behind, tail⟩
  · cases between with
    | nil => exact .inr (.inl ⟨by simp [ahead], (List.cons.inj tail).1⟩)
    | cons x between =>
        obtain ⟨rfl, -⟩ := List.cons.inj tail
        exact .inl ⟨between, ahead⟩
  · cases between with
    | nil => exact .inr (.inl ⟨by simp [behind], (List.cons.inj tail).1.symm⟩)
    | cons x between =>
        obtain ⟨rfl, closed⟩ := List.cons.inj tail
        exact .inr (.inr ⟨between, behind, closed⟩)

open Picture

namespace Scene

/-- The circle of the marker's disc is refused. Before it, there are the one in the middle of the axes
and those along the trail. -/
def DiscRefused (s : Scene) (breakage? : Option Breakage) : Prop :=
  s.view.contains s.place = true ∧
    ∃ message, breakage? = some ⟨"arc", s.dots.length + 2, message⟩

theorem refuses_disc_iff (s : Scene) (b : Breakage) :
    b.Refuses (beneath s ++ opening) (circle s.place Style.markerRadius) ↔
      b.call = "arc" ∧ b.countdown = s.dots.length + 2 := by
  have concerns : b.concerns (circle s.place Style.markerRadius) = true ↔ "arc" = b.call := by
    simp [Breakage.concerns, circle, Command.fallible, Command.name]
  have counted (named : b.call = "arc") :
      (beneath s ++ opening).countP b.concerns = s.dots.length + 1 := by
    have before : arcs opening = [] := rfl
    rw [countP_concerns (by simp [named, refusable]), named, calls_arc, arcs_append, arcs_beneath,
      before]
    simp
  unfold Breakage.Refuses
  rw [concerns]
  constructor
  · rintro ⟨named, due⟩
    have before := counted named.symm
    exact ⟨named.symm, by omega⟩
  · rintro ⟨named, due⟩
    exact ⟨named.symm, by rw [counted named, due]⟩

theorem picture_eq_of_contains {s : Scene} (shown : s.view.contains s.place = true) :
    s.picture = beneath s ++ opening ++ circle s.place Style.markerRadius :: closing s.place := by
  rw [s.picture_eq, top_eq, if_pos shown, List.append_assoc, ← marker_eq]

theorem drawn_of_discRefused {s : Scene} {breakage? : Option Breakage}
    (refused : s.DiscRefused breakage?) :
    (s.drawn breakage?).performed =
      beneath s ++ opening ++ [circle s.place Style.markerRadius] := by
  obtain ⟨shown, message, rfl⟩ := refused
  have refuses := (s.refuses_disc_iff ⟨"arc", s.dots.length + 2, message⟩).mpr ⟨rfl, rfl⟩
  rw [drawn_eq_play, picture_eq_of_contains shown, play_of_refuses refuses]

/-- A call that is refused is before the circle of the marker's disc, that circle, or after it. -/
theorem tidy_of_refuses {s : Scene} {b : Breakage} {front rest : List Command} {last : Command}
    (split : s.picture = front ++ last :: rest) (refuses : b.Refuses front last)
    (spared : ¬ s.DiscRefused (some b)) :
    ∃ later, Outlook.start.after (front ++ [last]) = some later ∧ later.tidy = true := by
  have fallible : last.fallible = true := (Bool.and_eq_true_iff.mp refuses.1).1
  by_cases shown : s.view.contains s.place = true
  · rw [picture_eq_of_contains shown] at split
    rcases cases_of_split split.symm with ⟨between, before⟩ | ⟨rfl, rfl⟩ | ⟨between, past, closed⟩
    · exact Outlook.tidy_of_guards (before ▸ guards_opening s) fallible
    · obtain ⟨named, due⟩ := (s.refuses_disc_iff b).mp refuses
      exact absurd ⟨shown, b.message, by rw [← named, ← due]⟩ spared
    · obtain ⟨later, accepted, tidy⟩ :=
        Outlook.tidy_of_guards (closed ▸ guards_closing s.place) fallible
      refine ⟨later, ?_, tidy⟩
      rw [past, List.append_assoc, Outlook.after_of_after (after_opening s)]
      exact accepted
  · have unmarked : s.picture = beneath s := by
      rw [s.picture_eq, top_eq, if_neg shown, List.append_nil]
    exact Outlook.tidy_of_guards (by rw [← split, unmarked, guards_beneath]) fallible

/-- Any other drawing leaves nothing aside. -/
theorem tidy_of_not_discRefused {s : Scene} {breakage? : Option Breakage}
    (spared : ¬ s.DiscRefused breakage?) :
    ∃ later, Outlook.start.after (s.drawn breakage?).performed = some later ∧ later.tidy = true := by
  rw [drawn_eq_play]
  cases breakage? with
  | none => exact ⟨settled, by rw [play_none, after_picture], rfl⟩
  | some b =>
      rcases play_cases b s.picture with ⟨_, played⟩ | ⟨front, last, rest, split, refuses, played⟩
      · exact ⟨settled, by rw [played, after_picture], rfl⟩
      · rw [played]
        exact tidy_of_refuses split refuses spared

theorem after_of_discRefused {s : Scene} {breakage? : Option Breakage}
    (refused : s.DiscRefused breakage?) :
    Outlook.start.after (s.drawn breakage?).performed = some clipped := by
  rw [drawn_of_discRefused refused, Outlook.after_of_after (after_opening s)]
  rfl

/-- Drawing a scene, with any call refused or none. At no point was more brought back than put aside. In
the end all was brought back, and the canvas has the caps, joins, shadow and clip with which drawing
began, unless the circle of the marker's disc was refused: then one pen stays aside, and what is drawn
next has the marker's shadow. -/
theorem restored_unless_disc_refused (s : Scene) (breakage? : Option Breakage) :
    let told := (s.drawn breakage?).performed
    (∀ early, early <+: told → calls "restore" early ≤ calls "save" early) ∧
    (¬ s.DiscRefused breakage? → calls "save" told = calls "restore" told ∧
      ∀ c : Surface, (c.run told).saved = c.saved ∧ (c.run told).pen.base = c.pen.base) ∧
    (s.DiscRefused breakage? → calls "save" told = calls "restore" told + 1 ∧
      ∀ c : Surface, (∃ pen, (c.run told).saved = pen :: c.saved ∧ pen.base = c.pen.base) ∧
        (c.run told).pen.shadow =
          ⟨Style.markerShadow, Style.markerShadowBlur, 0, Style.markerShadowOffsetY⟩) := by
  intro told
  refine ⟨fun early begun => ?_, fun spared => ?_, fun refused => ?_⟩
  · have played : told = (play breakage? s.picture).performed :=
      congrArg Performance.performed (s.drawn_eq_play breakage?)
    have within : early <+: s.picture :=
      begun.trans (played ▸ performed_prefix breakage? s.picture)
    obtain ⟨later, accepted⟩ := Outlook.after_take (after_picture s) early.length
    rw [← List.prefix_iff_eq_take.mp within] at accepted
    have counted := Outlook.calls_of_after accepted
    have nothing : Outlook.start.saved.length = 0 := rfl
    omega
  · obtain ⟨later, accepted, tidy⟩ := tidy_of_not_discRefused spared
    obtain ⟨aside, base⟩ := Bool.and_eq_true_iff.mp tidy
    have empty : later.saved = [] := List.isEmpty_iff.mp aside
    have counted : calls "save" told + 0 = calls "restore" told + later.saved.length :=
      Outlook.calls_of_after accepted
    rw [empty] at counted
    refine ⟨counted, fun c => ?_⟩
    have since := (since_start c).run accepted
    exact ⟨since.saved_eq empty, since.base base⟩
  · have accepted := after_of_discRefused refused
    refine ⟨Outlook.calls_of_after accepted, fun c => ⟨?_, ?_⟩⟩
    · obtain ⟨above, saved, kept⟩ := ((since_start c).run accepted).saved
      cases kept with
      | cons first rest =>
          cases rest
          exact ⟨_, saved, first rfl⟩
    · have opened : told = beneath s ++ (opening ++ [circle s.place Style.markerRadius]) :=
        (drawn_of_discRefused refused).trans (List.append_assoc ..)
      rw [opened, Surface.run_append]
      rfl

/-- The marker's disc is the second one of a scene without a trail. -/
theorem disc_refused_unrestored :
    let s := { Scene.ofSettings .default with view := ⟨10, 10, 20, 0.9⟩ }
    let told := (s.drawn (some ⟨"arc", 2, "boom"⟩)).performed
    let blank : Surface :=
      ⟨⟨"#000000", "#000000", 1, "butt", "miter", "10px sans-serif", "start",
        ⟨"rgba(0, 0, 0, 0)", 0, 0, 0⟩, ⟨1, 0, 0, 1, 0, 0⟩, []⟩, [], []⟩
    calls "save" told = 1 ∧ calls "restore" told = 0 ∧ (blank.run told).saved.length = 1 ∧
      (blank.run told).pen.shadow.color = Style.markerShadow := by
  decide +kernel

end Scene

end PositionMap
