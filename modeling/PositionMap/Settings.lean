import PositionMap.Json.Record
import PositionMap.Text
import PositionMap.View

/-!
# Settings

The settings come as a JSON document in which every member may be left out and no other member may
occur. A blank text stands for the default settings. Values are checked after the whole document
has been read, the scale first and the frame rate last.
-/

namespace PositionMap

structure Settings where
  /-- Meters from the middle of the canvas to the edge of the filled square at the start. -/
  initialScale : Float
  viewFill : Float
  /-- The most frames per second that are drawn; without it every frame is. -/
  maxRate : Option UInt32

namespace Settings

def default : Settings := ⟨View.defaultScale, View.defaultFill, none⟩

inductive Refusal
  | malformed (complaint : Json.Complaint)
  | scale (value : Float)
  | fill (value : Float)
  | rate

namespace Refusal

def message : Refusal → String
  | malformed complaint => "config parse error: " ++ complaint.message
  | scale value =>
    "initial_scale must be a positive finite number of meters, got " ++ Number.shown value
  | fill value => "view_fill must be within (0, 1], got " ++ Number.shown value
  | rate => "max_fps must be greater than zero"

end Refusal

/-- The first value that is out of range. -/
def refusal? (s : Settings) : Option Refusal :=
  if !(s.initialScale.isFinite && 0 < s.initialScale) then some (.scale s.initialScale)
  else if !(0 < s.viewFill && s.viewFill ≤ 1) then some (.fill s.viewFill)
  else if s.maxRate == some 0 then some .rate
  else none

def shape : Json.Shape Settings where
  name := "struct RendererConfig"
  closed := true
  members := [
    .of "initial_scale" Json.readFloat Json.readFloat_shortens
      fun value s => { s with initialScale := value },
    .of "view_fill" Json.readFloat Json.readFloat_shortens
      fun value s => { s with viewFill := value },
    .of "max_fps" (Json.readOptional Json.readCount)
      (Json.readOptional_shortens Json.readCount_shortens)
      fun value s => { s with maxRate := value }]
  blank := default

def parse (document : String) : Except Refusal Settings :=
  if Text.isBlank document then .ok default
  else
    match Json.readDocument shape.read document with
    | .error complaint => .error (.malformed complaint)
    | .ok settings =>
      match settings.refusal? with
      | some refusal => .error refusal
      | none => .ok settings

end Settings

end PositionMap
