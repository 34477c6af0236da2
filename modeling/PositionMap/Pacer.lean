/-!
# Pacing

A `Pacer` decides which of the frames offered by the page are drawn. Times are in milliseconds; the
interval is counted from the last frame that was drawn.
-/

namespace PositionMap

structure Pacer where
  /-- The least time between two frames that are drawn; zero for no limit. -/
  interval : Float
  last? : Option Float

namespace Pacer

/-- A pacer for a highest number of frames per second, or for every frame. -/
def ofRate : Option UInt32 → Pacer
  | none => ⟨0, none⟩
  | some rate => ⟨1000 / (max rate 1).toFloat, none⟩

def admits (pacer : Pacer) (now : Float) : Bool :=
  match pacer.last? with
  | some last => !(0 < pacer.interval && now - last < pacer.interval)
  | none => true

def offer (pacer : Pacer) (now : Float) : Pacer :=
  if pacer.admits now then { pacer with last? := some now } else pacer

/-- Forgets the last frame, so that the next one is drawn. -/
def reset (pacer : Pacer) : Pacer :=
  { pacer with last? := none }

end Pacer

end PositionMap
