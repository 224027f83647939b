import Telemetry.Text.Blank
import Telemetry.Text.Utf8

/-! Environment variables. Their values are bytes, which need not be text. -/
namespace Telemetry

/-- The value of a variable. -/
inductive EnvironmentValue where
  | text (s : String)
  /-- Bytes that are not UTF-8. -/
  | bytes (l : List UInt8)
deriving DecidableEq, Repr, Inhabited

namespace EnvironmentValue

def ofBytes (l : List UInt8) : EnvironmentValue := ((Text.decode? l).map .text).getD (.bytes l)

def text? : EnvironmentValue → Option String
  | text s => some s
  | bytes _ => none

/-- The value as far as it can be shown. -/
def shown : EnvironmentValue → String
  | text s => s
  | bytes l => Text.decodeLossy l

end EnvironmentValue

/-- The variables that are set; a later entry of a name takes the place of an earlier one. -/
structure Environment where
  entries : List (String × EnvironmentValue)
deriving Repr, Inhabited

namespace Environment

def value? (e : Environment) (name : String) : Option EnvironmentValue :=
  (e.entries.reverse.find? (·.1 == name)).map (·.2)

/-- The text that a variable is set to. Bytes that are not text count as nothing. -/
def get? (e : Environment) (name : String) : Option String := (e.value? name).bind (·.text?)

/-- The value of a variable that is set to more than blanks. -/
def getFilled? (e : Environment) (name : String) : Option String :=
  (e.get? name).filter fun value => !Text.allBlank value.toList

end Environment
end Telemetry
