import PositionMap.Number.Text
import PositionMap.View

/-!
# Drawing commands

A picture is a list of commands to a canvas. `play` carries them out in order on a canvas on which
one call may be going to fail: the commands are carried out up to the failing one, and no further.
-/

namespace PositionMap.Canvas

inductive Command
  | fillStyle (style : String)
  | strokeStyle (style : String)
  | font (font : String)
  | textAlign (align : String)
  | lineCap (cap : String)
  | lineJoin (join : String)
  | shadowColor (color : String)
  | lineWidth (width : Float)
  | shadowBlur (blur : Float)
  | shadowOffsetX (offset : Float)
  | shadowOffsetY (offset : Float)
  | beginPath
  | stroke
  | fill
  | save
  | restore
  | clip
  | moveTo (p : Point)
  | lineTo (p : Point)
  | rect (corner : Point) (width height : Float)
  | fillRect (corner : Point) (width height : Float)
  | setTransform (a b c d e f : Float)
  | fillText (text : String) (p : Point)
  | arc (center : Point) (radius start stop : Float)

namespace Command

def name : Command → String
  | fillStyle _ => "fillStyle"
  | strokeStyle _ => "strokeStyle"
  | font _ => "font"
  | textAlign _ => "textAlign"
  | lineCap _ => "lineCap"
  | lineJoin _ => "lineJoin"
  | shadowColor _ => "shadowColor"
  | lineWidth _ => "lineWidth"
  | shadowBlur _ => "shadowBlur"
  | shadowOffsetX _ => "shadowOffsetX"
  | shadowOffsetY _ => "shadowOffsetY"
  | beginPath => "beginPath"
  | stroke => "stroke"
  | fill => "fill"
  | save => "save"
  | restore => "restore"
  | clip => "clip"
  | moveTo _ => "moveTo"
  | lineTo _ => "lineTo"
  | rect .. => "rect"
  | fillRect .. => "fillRect"
  | setTransform .. => "setTransform"
  | fillText .. => "fillText"
  | arc .. => "arc"

/-- Whether the canvas may refuse the command. -/
def fallible : Command → Bool
  | setTransform .. | fillText .. | arc .. => true
  | _ => false

def property (name value : String) : String :=
  name ++ " = " ++ value

def call (name : String) (arguments : List Float) : String :=
  " ".intercalate (name :: arguments.map Number.shown)

def line (command : Command) : String :=
  match command with
  | fillStyle value | strokeStyle value | font value | textAlign value | lineCap value
  | lineJoin value | shadowColor value => property command.name value
  | lineWidth value | shadowBlur value | shadowOffsetX value | shadowOffsetY value =>
    property command.name (Number.shown value)
  | beginPath | stroke | fill | save | restore | clip => command.name
  | moveTo p | lineTo p => call command.name [p.x, p.y]
  | rect p width height | fillRect p width height => call command.name [p.x, p.y, width, height]
  | setTransform a b c d e f => call command.name [a, b, c, d, e, f]
  | fillText text p => call (command.name ++ " " ++ text) [p.x, p.y]
  | arc p radius start stop => call command.name [p.x, p.y, radius, start, stop]

end Command

/-! ## Carrying commands out -/

/-- The canvas is going to refuse the `countdown`-th fallible call of a name, counted from 1. -/
structure Breakage where
  call : String
  countdown : Nat
  message : String

namespace Breakage

def concerns (b : Breakage) (command : Command) : Bool :=
  command.fallible && command.name == b.call

end Breakage

/-- What became of a list of commands: those carried out, the message of the one that failed, and
the failure that is still to come. -/
structure Performance where
  performed : List Command
  error? : Option String
  pending? : Option Breakage

def play : Option Breakage → List Command → Performance
  | none, commands => ⟨commands, none, none⟩
  | some b, [] => ⟨[], none, some b⟩
  | some b, command :: commands =>
    if b.concerns command then
      if b.countdown = 1 then ⟨[command], some b.message, none⟩
      else
        let rest := play (some { b with countdown := b.countdown - 1 }) commands
        { rest with performed := command :: rest.performed }
    else
      let rest := play (some b) commands
      { rest with performed := command :: rest.performed }

end PositionMap.Canvas
