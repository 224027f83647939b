import Telemetry.Binary64
import Telemetry.Error
import Telemetry.Scope

/-! Instruments: what a measurement is made with, and the rules for their names and
histogram boundaries. -/
namespace Telemetry

inductive InstrumentKind where
  | counter
  | histogram
deriving DecidableEq, Repr, Inhabited

def InstrumentKind.name : InstrumentKind → String
  | counter => "counter"
  | histogram => "histogram"

/-- The description of an instrument. The boundaries are a histogram's. -/
structure Instrument where
  id : Nat
  name : String
  kind : InstrumentKind
  unit : Option String
  description : Option String
  scope : Scope
  boundaries : Option (List Binary64)
deriving DecidableEq, Repr, Inhabited

namespace Instrument

/-- The boundaries of a histogram that does not name its own. -/
def defaultBoundaries : List Binary64 :=
  [0, 5, 10, 25, 50, 75, 100, 250, 500, 750, 1000, 2500, 5000, 7500, 10000].map Binary64.ofNat

def maxNameLength : Nat := 255

def isNameChar (c : Char) : Bool := c.isAlphanum || c = '_' || c = '.' || c = '-' || c = '/'

/-- A name has at most 255 bytes, starts with an ASCII letter and goes on with ASCII letters,
digits and four punctuation marks. -/
def isValidName (name : String) : Bool :=
  name.utf8ByteSize ≤ maxNameLength &&
    match name.toList with
    | [] => false
    | c :: rest => c.isAlpha && rest.all isNameChar

/-- The first pair of neighbours that does not increase, as a fault. -/
def neighbourFault : List Binary64 → Option BoundaryFault
  | a :: b :: rest =>
    if a.le b && b.le a then some .duplicate
    else if b.lt a then some .unsorted
    else neighbourFault (b :: rest)
  | _ => none

/-- Why boundaries are refused: they have to be finite and strictly increasing. -/
def boundaryFault (l : List Binary64) : Option BoundaryFault :=
  if l.all Binary64.isFinite then neighbourFault l else some .notFinite

def diagnostic (i : Instrument) : String :=
  let kind := match i.kind with
    | .counter => "Counter"
    | .histogram => "Histogram"
  kind ++ "(" ++ Text.quoted i.name ++ ")"

end Instrument
end Telemetry
