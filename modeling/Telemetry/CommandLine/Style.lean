import Telemetry.Decimal.Digits
import Telemetry.Environment
import Telemetry.Text.ControlSequence

/-! What a program says about its command line has parts that colors tell apart. It is composed
with its colors, and they are taken out where nobody wants them, together with all else that
only a terminal understands. -/
namespace Telemetry.CommandLine

/-- The part that a piece of text plays. -/
inductive Style where
  | heading
  /-- What is to be typed as it stands. -/
  | literal
  | failure
  /-- What would have been right. -/
  | valid
  | invalid
deriving DecidableEq, Repr

namespace Style

/-- The numbers of bold, underlined, red, green and yellow are 1, 4, 31, 32 and 33. -/
def codes : Style → List Nat
  | heading => [1, 4]
  | literal => [1]
  | failure => [1, 31]
  | valid => [32]
  | invalid => [33]

def sequence (code : Nat) : String := "\x1b[" ++ Decimal.natText code ++ "m"

/-- The text in this style. -/
def mark (s : Style) (text : String) : String :=
  String.join (s.codes.map sequence) ++ text ++ sequence 0

end Style

/-- Whether colors are wanted where the output is no terminal: they have to be asked for, and
nobody may object. A variable that is set to nothing does neither. -/
def forcesColors (e : Environment) : Bool :=
  let isSet (name : String) : Bool := (e.value? name).any fun value => !value.shown.isEmpty
  isSet "CLICOLOR_FORCE" && !isSet "NO_COLOR"

/-- What is written of a composed text. -/
def display (e : Environment) (text : String) : String :=
  if forcesColors e then text else Text.withoutControls text

end Telemetry.CommandLine
