import PositionMap.Json.Record
import PositionMap.View

/-!
# The feed

The host hands on events by name, with a JSON payload. `Event.decode` makes an event of them, and
`Event.notices` says what the event tells: a listener hears the notices one after the other.
-/

namespace PositionMap

structure Fix where
  latitude : Float
  longitude : Float
  status : String
  satellites : UInt32

namespace Fix

def blank : Fix := ⟨0, 0, "", 0⟩

def isActive (fix : Fix) : Bool :=
  fix.status == "Active"

def shape : Json.Shape Fix where
  name := "struct FixSummary"
  closed := false
  members := [
    .of "latitude" Json.readFloat Json.readFloat_shortens
      fun value fix => { fix with latitude := value },
    .of "longitude" Json.readFloat Json.readFloat_shortens
      fun value fix => { fix with longitude := value },
    .of "fix_status" Json.readString Json.readString_shortens
      fun value fix => { fix with status := value },
    .of "visible_satellites" Json.readCount Json.readCount_shortens
      fun value fix => { fix with satellites := value }]
  blank := blank

end Fix

/-- A periodic report: the fix and the position relative to the reference, which means something
only when there is a reference. -/
structure Report where
  fix : Fix
  offset : Point
  hasReference : Bool

namespace Report

def shape : Json.Shape Report where
  name := "struct GpsUpdate"
  closed := false
  members := [
    .requiredOf "pvt" Fix.shape.read Fix.shape.read_shortens
      fun value report => { report with fix := value },
    .of "offset_x" Json.readFloat Json.readFloat_shortens
      fun value report => { report with offset.x := value },
    .of "offset_y" Json.readFloat Json.readFloat_shortens
      fun value report => { report with offset.y := value },
    .of "has_reference" Json.readFlag Json.readFlag_shortens
      fun value report => { report with hasReference := value }]
  blank := ⟨.blank, .origin, false⟩

end Report

structure Greeting where
  status : String

namespace Greeting

def shape : Json.Shape Greeting where
  name := "struct ConnectionResponse"
  closed := false
  members := [
    .of "status" Json.readString Json.readString_shortens
      fun value _ => ⟨value⟩]
  blank := ⟨""⟩

end Greeting

inductive Event
  | report (report : Report)
  | referenceReset
  | connection (connected : Bool)

inductive Notice
  | fix (fix : Fix)
  | position (position : Point)
  | originReset
  | connection (connected : Bool)

namespace Event

/-! ## Names -/

def reportName : String := "gps_update"

def referenceResetName : String := "reference_reset"

def greetingName : String := "connection_response"

def connectName : String := "connect"

def disconnectName : String := "disconnect"

/-- The event that the host sends to ask for a new reference. -/
def resetRequestName : String := "reset_reference"

inductive Refusal
  | unknown (name : String)
  | malformed (complaint : Json.Complaint)

namespace Refusal

def message : Refusal → String
  | unknown name => "unknown event: " ++ name
  | malformed complaint => "malformed payload: " ++ complaint.message

end Refusal

def payloadOf {α : Type} (shape : Json.Shape α) (payload : String) : Except Refusal α :=
  match Json.readDocument shape.read payload with
  | .ok value => .ok value
  | .error complaint => .error (.malformed complaint)

/-- The event of a name and a payload. Where the name says it all, the payload is not looked at. -/
def decode (name payload : String) : Except Refusal Event :=
  if name = reportName then (payloadOf Report.shape payload).map .report
  else if name = referenceResetName then .ok .referenceReset
  else if name = greetingName then
    (payloadOf Greeting.shape payload).map fun greeting =>
      .connection (greeting.status == "connected")
  else if name = connectName then .ok (.connection true)
  else if name = disconnectName then .ok (.connection false)
  else .error (.unknown name)

/-- What an event tells. A report always tells the fix, and a position only relative to a
reference. -/
def notices : Event → List Notice
  | report r => .fix r.fix :: if r.hasReference then [.position r.offset] else []
  | referenceReset => [.originReset]
  | connection connected => [.connection connected]

end Event

end PositionMap
