import PositionMap.Proofs.Number.Arithmetic
import PositionMap.Session.Frame

/-! # The sizes of a canvas

What happens to a canvas is that its container is measured, that its width and height are written,
and that something is drawn. `Fits` says what may follow a measurement: the sizes are written once
if it is not what was measured last, and then a frame may be drawn. The scene keeps its own copy of
the size and compares with that. The two comparisons come to the same, and the sizes that were
written last are always those of the copy.
-/

namespace PositionMap

namespace Measurement

/-- What counts as measured before there is a measurement. -/
def start : Measurement := ⟨0, 0, 1⟩

/-- Whether two measurements are the same, as doubles compare. -/
def same (a b : Measurement) : Bool :=
  a.width == b.width && a.height == b.height && a.ratio == b.ratio

def taking (size m : Measurement) : Measurement :=
  if size.same m then size else m

variable {a b size m : Measurement}

theorem same_congr (equal : a.same b = true) (c : Measurement) : a.same c = b.same c := by
  simp only [same, Bool.and_eq_true] at equal
  obtain ⟨⟨width, height⟩, ratio⟩ := equal
  simp only [same, Number.beq_congr width, Number.beq_congr height, Number.beq_congr ratio]

theorem same_taking (size m n : Measurement) : (size.taking m).same n = m.same n := by
  unfold taking
  split
  · rename_i equal
    exact same_congr equal n
  · rfl

theorem one_le_ratio_taking (size_ratio : 1 ≤ size.ratio) (ratio : 1 ≤ m.ratio) :
    1 ≤ (size.taking m).ratio := by
  unfold taking
  split
  · exact size_ratio
  · exact ratio

end Measurement

namespace Scene

def size (s : Scene) : Measurement :=
  ⟨s.view.width, s.view.height, s.ratio⟩

theorem differs_eq (s : Scene) (m : Measurement) : s.differs m = !s.size.same m := rfl

theorem size_fit (s : Scene) (m : Measurement) : (s.fit m).1.size = s.size.taking m := by
  unfold fit Measurement.taking
  rw [differs_eq]
  cases s.size.same m <;> rfl

end Scene

/-- What happens to a canvas. A measurement that fails leaves no mark. -/
inductive Mark
  | measured (m? : Option Measurement)
  | width (pixels : UInt32)
  | height (pixels : UInt32)
  | drawn (command : Canvas.Command)

namespace Mark

def measured? : Mark → Option Measurement
  | measured m? => m?
  | _ => none

def width? : Mark → Option UInt32
  | width pixels => some pixels
  | _ => none

def height? : Mark → Option UInt32
  | height pixels => some pixels
  | _ => none

end Mark

namespace Measurement

def writes (last m : Measurement) : List Mark :=
  if last.same m then []
  else [.width (Session.backingSize m.width m.ratio), .height (Session.backingSize m.height m.ratio)]

/-- What happens to a canvas that is fitted to its container and then drawn on. Without a container
nothing does. -/
def fitting (last : Measurement) (m? : Option Measurement) (commands : List Canvas.Command) :
    List Mark :=
  match m? with
  | none => []
  | some m => .measured (some m) :: (last.writes m ++ commands.map .drawn)

def latest (last : Measurement) (marks : List Mark) : Measurement :=
  (marks.filterMap Mark.measured?).foldl (fun _ m => m) last

/-- The size that a scene has after it took all that was measured. -/
def held (size : Measurement) (marks : List Mark) : Measurement :=
  (marks.filterMap Mark.measured?).foldl taking size

theorem latest_append (last : Measurement) (marks more : List Mark) :
    last.latest (marks ++ more) = (last.latest marks).latest more := by
  simp [latest]

theorem held_append (size : Measurement) (marks more : List Mark) :
    size.held (marks ++ more) = (size.held marks).held more := by
  simp [held]

/-- The size of the scene compares like what was measured last. -/
theorem same_held {size last : Measurement} (agree : ∀ n, size.same n = last.same n)
    (marks : List Mark) (n : Measurement) : (size.held marks).same n = (last.latest marks).same n := by
  unfold held latest
  induction marks.filterMap Mark.measured? generalizing size last with
  | nil => exact agree n
  | cons m ms ih => exact ih (same_taking size m)

/-- Only what a size compares like decides what is written. -/
theorem fitting_congr {size last : Measurement} (agree : ∀ n, size.same n = last.same n)
    (m? : Option Measurement) (commands : List Canvas.Command) :
    size.fitting m? commands = last.fitting m? commands := by
  cases m? with
  | none => rfl
  | some m => simp only [fitting, writes, agree]

theorem fitting_of_differs {last m : Measurement} (differs : last.same m = false) :
    last.fitting (some m) [] = [.measured (some m), .width (Session.backingSize m.width m.ratio),
      .height (Session.backingSize m.height m.ratio)] := by
  simp [fitting, writes, differs]

theorem filterMap_fitting {α : Type} {f : Mark → Option α}
    (undrawn : ∀ command, f (.drawn command) = none) (last m : Measurement)
    (commands : List Canvas.Command) :
    (last.fitting (some m) commands).filterMap f =
      (f (.measured (some m))).toList ++ (last.writes m).filterMap f := by
  have drawn : (commands.map Mark.drawn).filterMap f = [] := by
    rw [List.filterMap_map, List.filterMap_eq_nil_iff]
    exact fun command _ => undrawn command
  cases measured : f (.measured (some m)) <;> simp [fitting, drawn, measured]

theorem measurements_fitting (last : Measurement) (m? : Option Measurement)
    (commands : List Canvas.Command) :
    (last.fitting m? commands).filterMap Mark.measured? = m?.toList := by
  cases m? with
  | none => rfl
  | some m =>
      have written : (last.writes m).filterMap Mark.measured? = [] := by
        unfold writes
        split <;> rfl
      rw [filterMap_fitting (fun _ => rfl), written]
      rfl

theorem latest_fitting (last size m : Measurement) (commands : List Canvas.Command) :
    last.latest (size.fitting (some m) commands) = m := by
  rw [latest, measurements_fitting]
  rfl

theorem held_fitting (size last : Measurement) (m? : Option Measurement)
    (commands : List Canvas.Command) :
    size.held (last.fitting m? commands) = m?.elim size size.taking := by
  rw [held, measurements_fitting]
  cases m? <;> rfl

end Measurement

/-! ## Canvases that fit their containers -/

/-- What may happen to a canvas after a measurement: measurements again and again, each followed by
the sizes if it is not the same as the one before, and perhaps by a drawing. -/
inductive Fits : Measurement → List Mark → Prop
  | nil {last : Measurement} : Fits last []
  | frame {last m : Measurement} {rest : List Mark} (commands : List Canvas.Command)
      (fits : Fits m rest) : Fits last (last.fitting (some m) commands ++ rest)

/-- The same step by step, where a step ends with what was measured last. -/
def FitsEach : Measurement → List (List Mark) → Prop
  | _, [] => True
  | last, marks :: traces => Fits last marks ∧ FitsEach (last.latest marks) traces

namespace Fits

variable {last size m : Measurement} {marks more : List Mark}

theorem append (fits : Fits last marks) (later : Fits (last.latest marks) more) :
    Fits last (marks ++ more) := by
  induction fits with
  | nil => exact later
  | @frame last m rest commands _ ih =>
      rw [Measurement.latest_append, Measurement.latest_fitting] at later
      rw [List.append_assoc]
      exact .frame commands (ih later)

theorem fitting (last : Measurement) (m? : Option Measurement) (commands : List Canvas.Command) :
    Fits last (last.fitting m? commands) := by
  cases m? with
  | none => exact .nil
  | some m =>
      have frame : Fits last (last.fitting (some m) commands ++ []) := .frame commands .nil
      rwa [List.append_nil] at frame

theorem eq_nil_of_unmeasured (fits : Fits last marks)
    (unmeasured : ∀ m, .measured (some m) ∉ marks) : marks = [] := by
  cases fits with
  | nil => rfl
  | frame => exact absurd List.mem_cons_self (unmeasured _)

/-- The sizes that were written last are those of the scene. As long as none were written, the
scene has the size that it began with. -/
theorem written (fits : Fits last marks) (agree : ∀ n, size.same n = last.same n) :
    (marks.filterMap Mark.width?).getLast? = none ∧
        (marks.filterMap Mark.height?).getLast? = none ∧ size.held marks = size ∨
      (marks.filterMap Mark.width?).getLast? =
          some (Session.backingSize (size.held marks).width (size.held marks).ratio) ∧
        (marks.filterMap Mark.height?).getLast? =
          some (Session.backingSize (size.held marks).height (size.held marks).ratio) := by
  induction fits generalizing size with
  | nil => exact .inl ⟨rfl, rfl, rfl⟩
  | @frame last m rest commands _ ih =>
      have later := ih (Measurement.same_taking size m)
      have equal := agree m
      rw [Measurement.held_append, Measurement.held_fitting, List.filterMap_append,
        List.filterMap_append, Measurement.filterMap_fitting (fun _ => rfl),
        Measurement.filterMap_fitting (fun _ => rfl)]
      dsimp only [Mark.width?, Mark.height?, Option.toList_none, Option.elim_some]
      rw [List.nil_append, List.nil_append]
      cases same : last.same m with
      | true =>
          -- nothing is written, and the scene keeps its size
          have kept : size.taking m = size := by simp [Measurement.taking, equal, same]
          rw [kept] at later ⊢
          simpa [Measurement.writes, same] using later
      | false =>
          have taken : size.taking m = m := by simp [Measurement.taking, equal, same]
          rw [taken] at later ⊢
          have widths : (last.writes m).filterMap Mark.width? =
              [Session.backingSize m.width m.ratio] := by
            simp only [Measurement.writes, same, Bool.false_eq_true, if_false]
            rfl
          have heights : (last.writes m).filterMap Mark.height? =
              [Session.backingSize m.height m.ratio] := by
            simp only [Measurement.writes, same, Bool.false_eq_true, if_false]
            rfl
          rw [widths, heights]
          refine .inr ?_
          rcases later with ⟨width, height, unchanged⟩ | ⟨width, height⟩
          · simp [List.getLast?_cons, width, height, unchanged]
          · simp [List.getLast?_cons, width, height]

end Fits

theorem FitsEach.flatten {last : Measurement} {traces : List (List Mark)}
    (fits : FitsEach last traces) : Fits last traces.flatten := by
  induction traces generalizing last with
  | nil => exact .nil
  | cons marks traces ih => exact fits.1.append (ih fits.2)

end PositionMap
