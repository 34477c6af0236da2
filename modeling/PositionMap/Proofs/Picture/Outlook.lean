import Mathlib.Data.List.Forall2
import PositionMap.Proofs.Picture.Surface

/-! # What is known of a canvas

Commands are carried out on a canvas of which nothing is known but its caps, joins, shadow and clip.
An `Outlook` says which of the other styles the commands have set since then, without looking at the
values. `Outlook.after` refuses commands that paint with a style that was not set, that clip to a path
of which not all is known, or that restore a pen which they did not put aside. What it accepts paints
the same on every such canvas (`Agree`), and is accounted for by what the commands put aside and
changed themselves (`Since`).
-/

namespace PositionMap.Canvas

/-- Which styles of a pen were set, and whether its base is as it was. -/
structure Known where
  fillStyle : Bool
  strokeStyle : Bool
  lineWidth : Bool
  font : Bool
  textAlign : Bool
  transform : Bool
  base : Bool

structure Outlook where
  pen : Known
  /-- Whether the whole path is known. -/
  path : Bool
  saved : List Known

namespace Outlook

def start : Outlook :=
  ⟨⟨false, false, false, false, false, false, true⟩, false, []⟩

def step (o : Outlook) : Command → Option Outlook
  | .fillStyle _ => some { o with pen.fillStyle := true }
  | .strokeStyle _ => some { o with pen.strokeStyle := true }
  | .lineWidth _ => some { o with pen.lineWidth := true }
  | .font _ => some { o with pen.font := true }
  | .textAlign _ => some { o with pen.textAlign := true }
  | .setTransform .. => some { o with pen.transform := true }
  | .lineCap _ | .lineJoin _ | .shadowColor _ | .shadowBlur _ | .shadowOffsetX _
  | .shadowOffsetY _ => some { o with pen.base := false }
  | .beginPath => some { o with path := true }
  | .moveTo _ | .lineTo _ | .rect .. | .arc .. =>
    some { o with path := o.path && o.pen.transform }
  | .clip => if o.path then some { o with pen.base := false } else none
  | .save => some { o with saved := o.pen :: o.saved }
  | .restore =>
    match o.saved with
    | [] => none
    | pen :: saved => some { o with pen, saved }
  | .fillRect .. => if o.pen.fillStyle && o.pen.transform then some o else none
  | .fill => if o.path && o.pen.fillStyle && o.pen.transform then some o else none
  | .stroke =>
    if o.path && o.pen.strokeStyle && o.pen.lineWidth && o.pen.transform then some o else none
  | .fillText .. =>
    if o.pen.fillStyle && o.pen.font && o.pen.textAlign && o.pen.transform then some o else none

def after (o : Outlook) : List Command → Option Outlook
  | [] => some o
  | command :: commands => (o.step command).bind fun o => o.after commands

theorem after_append (o : Outlook) (first second : List Command) :
    o.after (first ++ second) = (o.after first).bind fun o => o.after second := by
  induction first generalizing o with
  | nil => rfl
  | cons command first ih => simp [after, ih, Option.bind_assoc]

theorem after_of_after {o middle : Outlook} {first : List Command}
    (begun : o.after first = some middle) (second : List Command) :
    o.after (first ++ second) = middle.after second := by
  simp [after_append, begun]

theorem after_flatMap {α : Type} {o : Outlook} {f : α → List Command} (xs : List α)
    (kept : ∀ x, o.after (f x) = some o) : o.after (xs.flatMap f) = some o := by
  induction xs with
  | nil => rfl
  | cons x xs ih => rw [List.flatMap_cons, after_of_after (kept x), ih]

theorem after_take {o later : Outlook} {commands : List Command}
    (accepted : o.after commands = some later) (n : Nat) :
    ∃ middle, o.after (commands.take n) = some middle := by
  rw [← List.take_append_drop n commands, after_append] at accepted
  obtain ⟨middle, begun, _⟩ := Option.bind_eq_some_iff.mp accepted
  exact ⟨middle, begun⟩

end Outlook

/-! ## Two canvases -/

structure Known.Agree (k : Known) (p q : Pen) : Prop where
  fillStyle : k.fillStyle = true → p.fillStyle = q.fillStyle
  strokeStyle : k.strokeStyle = true → p.strokeStyle = q.strokeStyle
  lineWidth : k.lineWidth = true → p.lineWidth = q.lineWidth
  font : k.font = true → p.font = q.font
  textAlign : k.textAlign = true → p.textAlign = q.textAlign
  transform : k.transform = true → p.transform = q.transform
  base : p.base = q.base

def AgreeSaved : List Known → List Pen → List Pen → Prop
  | [], _, _ => True
  | k :: ks, p :: ps, q :: qs => k.Agree p q ∧ AgreeSaved ks ps qs
  | _ :: _, _, _ => False

structure Outlook.Agree (o : Outlook) (a b : Surface) : Prop where
  pen : o.pen.Agree a.pen b.pen
  path : o.path = true → a.path = b.path
  saved : AgreeSaved o.saved a.saved b.saved

variable {o later : Outlook} {a b c : Surface} {command : Command} {commands : List Command}

theorem agree_start (same : a.pen.base = b.pen.base) : Outlook.start.Agree a b where
  pen := by constructor <;> simp [Outlook.start, same]
  path := by simp [Outlook.start]
  saved := trivial

theorem Outlook.Agree.extend (agree : o.Agree a b) (command : Command) :
    ({ o with path := o.path && o.pen.transform } : Outlook).Agree (a.extend command)
      (b.extend command) where
  pen := agree.pen
  path known := by
    obtain ⟨path, transform⟩ := Bool.and_eq_true_iff.mp known
    simp [Surface.extend, agree.path path, agree.pen.transform transform]
  saved := agree.saved

theorem AgreeSaved.of_cons {k : Known} {ks : List Known} {ps qs : List Pen}
    (agree : AgreeSaved (k :: ks) ps qs) :
    ∃ p ps' q qs', ps = p :: ps' ∧ qs = q :: qs' ∧ k.Agree p q ∧ AgreeSaved ks ps' qs' := by
  cases ps with
  | nil => exact agree.elim
  | cons p ps =>
      cases qs with
      | nil => exact agree.elim
      | cons q qs => exact ⟨p, ps, q, qs, rfl, rfl, agree⟩

theorem Outlook.Agree.restore {ks : List Known} (agree : o.Agree a b) {k : Known}
    (saved : o.saved = k :: ks) :
    ({ o with pen := k, saved := ks } : Outlook).Agree (a.apply .restore) (b.apply .restore) := by
  have aside := agree.saved
  rw [saved] at aside
  obtain ⟨p, ps, q, qs, left, right, pen, rest⟩ := aside.of_cons
  simp only [Surface.apply, left, right]
  exact ⟨pen, agree.path, rest⟩

/-- What is known after a command is the same on both canvases. -/
theorem Outlook.Agree.apply (agree : o.Agree a b) (accepted : o.step command = some later) :
    later.Agree (a.apply command) (b.apply command) := by
  obtain ⟨pen, path, saved⟩ := agree
  have base := Pen.base_eq_iff.mp pen.base
  cases command with
  | fillStyle => cases accepted; exact ⟨{ pen with fillStyle := fun _ => rfl }, path, saved⟩
  | strokeStyle => cases accepted; exact ⟨{ pen with strokeStyle := fun _ => rfl }, path, saved⟩
  | lineWidth => cases accepted; exact ⟨{ pen with lineWidth := fun _ => rfl }, path, saved⟩
  | font => cases accepted; exact ⟨{ pen with font := fun _ => rfl }, path, saved⟩
  | textAlign => cases accepted; exact ⟨{ pen with textAlign := fun _ => rfl }, path, saved⟩
  | setTransform => cases accepted; exact ⟨{ pen with transform := fun _ => rfl }, path, saved⟩
  | lineCap | lineJoin | shadowColor | shadowBlur | shadowOffsetX | shadowOffsetY =>
      cases accepted
      refine ⟨{ pen with base := ?_ }, path, saved⟩
      simp [Surface.apply, Pen.base_eq_iff, base]
  | beginPath => cases accepted; exact ⟨pen, fun _ => rfl, saved⟩
  | moveTo | lineTo | rect | arc =>
      cases accepted
      exact Outlook.Agree.extend ⟨pen, path, saved⟩ _
  | clip =>
      obtain ⟨known, same⟩ := Option.ite_none_right_eq_some.mp accepted
      cases same
      refine ⟨{ pen with base := ?_ }, path, saved⟩
      simp [Surface.apply, Pen.base_eq_iff, base, path known]
  | save => cases accepted; exact ⟨pen, path, pen, saved⟩
  | restore =>
      cases aside : o.saved with
      | nil => simp [Outlook.step, aside] at accepted
      | cons k ks =>
          obtain rfl : { o with pen := k, saved := ks } = later := by
            simpa [Outlook.step, aside] using accepted
          exact Outlook.Agree.restore ⟨pen, path, saved⟩ aside
  | fillRect | fill | stroke | fillText =>
      obtain ⟨_, same⟩ := Option.ite_none_right_eq_some.mp accepted
      cases same
      exact ⟨pen, path, saved⟩

theorem Known.Agree.setting {k : Known} {p q : Pen} (agree : k.Agree p q)
    (known : k.transform = true) : p.setting = q.setting := by
  obtain ⟨-, -, shadow, clip⟩ := Pen.base_eq_iff.mp agree.base
  simp [Pen.setting, agree.transform known, shadow, clip]

/-- A command that is accepted paints with what is known only. -/
theorem Outlook.Agree.painting? (agree : o.Agree a b) (accepted : o.step command = some later) :
    a.painting? command = b.painting? command := by
  obtain ⟨cap, join, -, -⟩ := Pen.base_eq_iff.mp agree.pen.base
  cases command with
  | fillRect | fill | stroke | fillText =>
      obtain ⟨known, -⟩ := Option.ite_none_right_eq_some.mp accepted
      simp only [Bool.and_eq_true] at known
      simp [Surface.painting?, agree.path, agree.pen.fillStyle, agree.pen.strokeStyle,
        agree.pen.lineWidth, agree.pen.font, agree.pen.textAlign, agree.pen.setting, cap, join,
        known]
  | _ => rfl

/-- Commands that are accepted paint the same on both canvases. -/
theorem Outlook.Agree.paintings (agree : o.Agree a b) (accepted : o.after commands = some later) :
    a.paintings commands = b.paintings commands := by
  induction commands generalizing o a b with
  | nil => rfl
  | cons command commands ih =>
      obtain ⟨middle, first, rest⟩ := Option.bind_eq_some_iff.mp accepted
      rw [Surface.paintings, Surface.paintings, agree.painting? first, ih (agree.apply first) rest]

/-! ## One canvas -/

/-- What became of a canvas: what was put aside since then is on top of what was put aside before,
and the bases that are said to be as they were are so. -/
structure Outlook.Since (o : Outlook) (start c : Surface) : Prop where
  base : o.pen.base = true → c.pen.base = start.pen.base
  saved : ∃ since, c.saved = since ++ start.saved ∧
    List.Forall₂ (fun k pen => k.base = true → pen.base = start.pen.base) o.saved since

theorem since_start (c : Surface) : Outlook.start.Since c c :=
  ⟨fun _ => rfl, [], rfl, .nil⟩

theorem Outlook.Since.apply {start : Surface} (since : o.Since start c)
    (accepted : o.step command = some later) : later.Since start (c.apply command) := by
  obtain ⟨base, above, saved, kept⟩ := since
  cases command with
  | fillStyle | strokeStyle | lineWidth | font | textAlign | setTransform | beginPath | moveTo
  | lineTo | rect | arc =>
      cases accepted
      exact ⟨base, above, saved, kept⟩
  | lineCap | lineJoin | shadowColor | shadowBlur | shadowOffsetX | shadowOffsetY =>
      cases accepted
      exact ⟨by simp, above, saved, kept⟩
  | clip =>
      obtain ⟨-, same⟩ := Option.ite_none_right_eq_some.mp accepted
      cases same
      exact ⟨by simp, above, saved, kept⟩
  | save =>
      cases accepted
      exact ⟨base, c.pen :: above, by simp [Surface.apply, saved], .cons base kept⟩
  | restore =>
      cases aside : o.saved with
      | nil => simp [Outlook.step, aside] at accepted
      | cons k ks =>
          obtain rfl : { o with pen := k, saved := ks } = later := by
            simpa [Outlook.step, aside] using accepted
          rw [aside] at kept
          cases kept with
          | cons first rest =>
              simp only [Surface.apply, saved, List.cons_append]
              exact ⟨first, _, rfl, rest⟩
  | fillRect | fill | stroke | fillText =>
      obtain ⟨-, same⟩ := Option.ite_none_right_eq_some.mp accepted
      cases same
      exact ⟨base, above, saved, kept⟩

theorem Outlook.Since.run {start : Surface} (since : o.Since start c)
    (accepted : o.after commands = some later) : later.Since start (c.run commands) := by
  induction commands generalizing o c with
  | nil =>
      cases accepted
      exact since
  | cons command commands ih =>
      obtain ⟨middle, first, rest⟩ := Option.bind_eq_some_iff.mp accepted
      exact ih (since.apply first) rest

theorem Outlook.Since.suffix {start : Surface} (since : o.Since start c) :
    start.saved <:+ c.saved := by
  obtain ⟨above, saved, _⟩ := since.saved
  exact ⟨above, saved.symm⟩

/-- Commands that put nothing aside which they do not bring back leave what was aside before. -/
theorem Outlook.Since.saved_eq {start : Surface} (since : o.Since start c) (none : o.saved = []) :
    c.saved = start.saved := by
  obtain ⟨above, saved, kept⟩ := since.saved
  rw [none] at kept
  cases kept
  exact saved

end PositionMap.Canvas
