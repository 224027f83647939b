import Telemetry.Error
import Telemetry.Text.Blank

/-! Header lists: `key=value` pairs between commas. -/
namespace Telemetry.Headers

/-- One piece: a key that is not blank, `=`, and a value. -/
def readPair (piece : List Char) : Except ConfigFault (String × String) :=
  match Text.cut '=' piece with
  | some (key, value) =>
    if Text.allBlank key then .error (.header (String.ofList piece))
    else .ok (String.ofList (Text.trim key), String.ofList (Text.trim value))
  | none => .error (.header (String.ofList piece))

def read (raw : String) : Except ConfigFault (List (String × String)) :=
  (Text.listItems raw.toList).mapM readPair

def parse (raw : String) : Except Error (List (String × String)) :=
  (read raw).mapError .invalidConfig

end Telemetry.Headers
