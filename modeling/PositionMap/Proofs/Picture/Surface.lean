import PositionMap.Canvas

/-! # Canvases

What becomes of a canvas when commands are carried out. A `Surface` has all that a later command can
depend on: the styles, the transform and the clip, which `save` puts aside and `restore` brings back,
and the path. A `Painting` is a call that puts something on the canvas, with everything of the canvas
that it uses.
-/

namespace PositionMap.Canvas

structure Transform where
  a : Float
  b : Float
  c : Float
  d : Float
  e : Float
  f : Float

structure Shadow where
  color : String
  blur : Float
  offsetX : Float
  offsetY : Float

/-- A command that added to a path, with the transform at that time. -/
structure Segment where
  command : Command
  transform : Transform

/-- What `save` puts aside. -/
structure Pen where
  fillStyle : String
  strokeStyle : String
  lineWidth : Float
  lineCap : String
  lineJoin : String
  font : String
  textAlign : String
  shadow : Shadow
  transform : Transform
  /-- The paths outside of which nothing is painted. -/
  clip : List (List Segment)

structure Surface where
  pen : Pen
  path : List Segment
  /-- The pens that were put aside, latest first. -/
  saved : List Pen

structure Setting where
  transform : Transform
  clip : List (List Segment)
  shadow : Shadow

inductive Painting
  | fillRect (corner : Point) (width height : Float) (fillStyle : String) (setting : Setting)
  | fill (path : List Segment) (fillStyle : String) (setting : Setting)
  | stroke (path : List Segment) (strokeStyle : String) (lineWidth : Float)
      (lineCap lineJoin : String) (setting : Setting)
  | fillText (text : String) (p : Point) (fillStyle font textAlign : String) (setting : Setting)

namespace Pen

def setting (pen : Pen) : Setting :=
  ⟨pen.transform, pen.clip, pen.shadow⟩

/-- The styles that a picture takes as it finds them. -/
structure Base where
  lineCap : String
  lineJoin : String
  shadow : Shadow
  clip : List (List Segment)

def base (pen : Pen) : Base :=
  ⟨pen.lineCap, pen.lineJoin, pen.shadow, pen.clip⟩

theorem base_eq_iff {p q : Pen} :
    p.base = q.base ↔
      p.lineCap = q.lineCap ∧ p.lineJoin = q.lineJoin ∧ p.shadow = q.shadow ∧ p.clip = q.clip := by
  simp [base]

end Pen

namespace Surface

def extend (c : Surface) (command : Command) : Surface :=
  { c with path := c.path ++ [⟨command, c.pen.transform⟩] }

def apply (c : Surface) (command : Command) : Surface :=
  match command with
  | .fillStyle style => { c with pen.fillStyle := style }
  | .strokeStyle style => { c with pen.strokeStyle := style }
  | .font font => { c with pen.font := font }
  | .textAlign align => { c with pen.textAlign := align }
  | .lineCap cap => { c with pen.lineCap := cap }
  | .lineJoin join => { c with pen.lineJoin := join }
  | .shadowColor color => { c with pen.shadow.color := color }
  | .lineWidth width => { c with pen.lineWidth := width }
  | .shadowBlur blur => { c with pen.shadow.blur := blur }
  | .shadowOffsetX offset => { c with pen.shadow.offsetX := offset }
  | .shadowOffsetY offset => { c with pen.shadow.offsetY := offset }
  | .setTransform a b c' d e f => { c with pen.transform := ⟨a, b, c', d, e, f⟩ }
  | .beginPath => { c with path := [] }
  | .moveTo _ | .lineTo _ | .rect .. | .arc .. => c.extend command
  | .clip => { c with pen.clip := c.path :: c.pen.clip }
  | .save => { c with saved := c.pen :: c.saved }
  | .restore =>
    match c.saved with
    | [] => c
    | pen :: saved => { c with pen, saved }
  | .stroke | .fill | .fillRect .. | .fillText .. => c

def painting? (c : Surface) : Command → Option Painting
  | .fillRect corner width height =>
    some (.fillRect corner width height c.pen.fillStyle c.pen.setting)
  | .fill => some (.fill c.path c.pen.fillStyle c.pen.setting)
  | .stroke =>
    some (.stroke c.path c.pen.strokeStyle c.pen.lineWidth c.pen.lineCap c.pen.lineJoin
      c.pen.setting)
  | .fillText text p =>
    some (.fillText text p c.pen.fillStyle c.pen.font c.pen.textAlign c.pen.setting)
  | _ => none

def run (c : Surface) (commands : List Command) : Surface :=
  commands.foldl apply c

theorem run_append (c : Surface) (first second : List Command) :
    c.run (first ++ second) = (c.run first).run second :=
  List.foldl_append

def paintings (c : Surface) : List Command → List Painting
  | [] => []
  | command :: commands => (c.painting? command).toList ++ (c.apply command).paintings commands

/-- What each of several lists of commands paints, each on what the one before it left. -/
def paintingsEach (c : Surface) : List (List Command) → List (List Painting)
  | [] => []
  | commands :: rest => c.paintings commands :: (c.run commands).paintingsEach rest

end Surface

end PositionMap.Canvas
