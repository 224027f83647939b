import Telemetry.Level
import Telemetry.Log.Value
import Telemetry.Time.Timestamp

/-! Structured log records. -/
namespace Telemetry.Log

structure Record where
  timestamp : Timestamp
  level : Level
  scope : String
  message : String
  properties : List (String × Value)
deriving DecidableEq, Repr, Inhabited

namespace Record

/-- The first property of a key. -/
def get? (r : Record) (key : String) : Option Value :=
  (r.properties.find? (·.1 == key)).map (·.2)

def propertyText (p : String × Value) : String := " " ++ p.1 ++ "=" ++ p.2.display

/-- The record without its time, on one line. -/
def line (r : Record) : String :=
  r.level.name ++ " " ++ r.scope ++ " " ++ r.message ++ String.join (r.properties.map propertyText)

def diagnostic (r : Record) : String :=
  let property (p : String × Value) := "(" ++ Text.quoted p.1 ++ ", " ++ p.2.diagnostic ++ ")"
  "Record \x7b timestamp: " ++ r.timestamp.text ++ ", level: " ++ Text.quoted r.level.name ++
    ", scope: " ++ Text.quoted r.scope ++ ", msg: " ++ Text.quoted r.message ++ ", props: [" ++
    String.intercalate ", " (r.properties.map property) ++ "] \x7d"

end Record
end Telemetry.Log
