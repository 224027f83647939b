import Telemetry.Json.Printer
import Telemetry.Log.Record
import Telemetry.Time.Calendar

/-! Log records as lines on a console: for people, in colors or without, and as JSON. -/
namespace Telemetry.Console

/-- A piece of a line, with the number of its color in the palette of 256 where it has one. -/
structure Segment where
  text : List Char
  color : Option Nat
deriving DecidableEq, Repr

namespace Segment

def plain (s : String) : Segment := ⟨s.toList, none⟩

def colored (color : Nat) (s : String) : Segment := ⟨s.toList, some color⟩

/-- Goes back to the terminal's own colors. -/
def reset : List Char := ['\x1b', '[', '0', 'm']

def setColor (color : Nat) : List Char :=
  reset ++ "\x1b[38;5;".toList ++ Decimal.numeral color ++ ['m']

/-- The text, between a change of color and its reset where colors are wanted. -/
def render (colors : Bool) (s : Segment) : List Char :=
  match s.color with
  | some color => if colors then setColor color ++ s.text ++ reset else s.text
  | none => s.text

end Segment

def levelColor : Level → Option Nat
  | .debug => some 244
  | .info => none
  | .warn => some 202
  | .error => some 124

def scopeColor : Nat := 244

def keyColor : Nat := 174

def valueColor : Log.Value → Nat
  | .signed _ | .unsigned _ | .float _ => 135
  | .bool _ => 168
  | .text _ | .shown _ => 69

/-- A property: its key, an equals sign, its value. Each piece of the value is colored on its
own. -/
def propertySegments (p : String × Log.Value) : List Segment :=
  [.plain " ", .colored keyColor p.1, .plain "="] ++ p.2.pieces.map (.colored (valueColor p.2))

/-- Time of day, level, scope, message and properties. -/
def segments (r : Log.Record) : List Segment :=
  [.plain (r.timestamp.timeOfDay ++ " "), ⟨r.level.name.toList, levelColor r.level⟩, .plain " ",
    .colored scopeColor (r.scope ++ " "), .plain r.message] ++
    r.properties.flatMap propertySegments ++ [.plain "\n"]

def textLine (colors : Bool) (r : Log.Record) : List Char := (segments r).flatMap (·.render colors)

def jsonValue (v : Log.Value) : Json.Value :=
  match v with
  | .signed i => .ofInt i.toInt
  | .unsigned n => .ofNat n.toNat
  | .float x => .ofFloat x
  | .bool b => .bool b
  | .text _ | .shown _ => .string v.display

/-- The record as an object. Properties come last, under their own keys. -/
def jsonObject (r : Log.Record) : Json.Value :=
  .object ([("timestamp", .string r.timestamp.rfc3339), ("level", .string r.level.name),
    ("scope", .string r.scope), ("msg", .string r.message)] ++
    r.properties.map fun (key, v) => (key, jsonValue v))

def jsonLine (r : Log.Record) : List Char := (jsonObject r).chars ++ ['\n']

end Telemetry.Console
