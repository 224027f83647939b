import Telemetry.Instrument

/-! Meters: the registries of instruments. Names are taken once in a meter, whatever the
kind of the instrument and the case of the letters. -/
namespace Telemetry

structure Meter where
  scope : Scope
  taken : List (String × InstrumentKind)
deriving DecidableEq, Repr, Inhabited

/-- What an instrument is asked to be. Boundaries count for histograms alone. -/
structure InstrumentRequest where
  name : String
  kind : InstrumentKind
  unit : Option String := none
  description : Option String := none
  boundaries : Option (List Binary64) := none
deriving DecidableEq, Repr, Inhabited

/-- What a registration works on: a meter, and its provider's counter of ids. -/
structure Registration where
  meter : Meter
  nextId : Nat
deriving DecidableEq, Repr, Inhabited

namespace Meter

def ofScope (scope : Scope) : Meter := ⟨scope, []⟩

/-- The form in which names are compared. -/
def nameKey (name : String) : String := String.ofList (name.toList.map Char.toLower)

def isTaken (m : Meter) (name : String) : Bool := m.taken.any (·.1 == nameKey name)

def take (m : Meter) (name : String) (kind : InstrumentKind) : Meter :=
  { m with taken := m.taken ++ [(nameKey name, kind)] }

/-- The boundaries that an instrument will have, if they can be used. -/
def boundariesOf (r : InstrumentRequest) : Except Error (Option (List Binary64)) :=
  match r.kind with
  | .counter => .ok none
  | .histogram =>
    let boundaries := r.boundaries.getD Instrument.defaultBoundaries
    match Instrument.boundaryFault boundaries with
    | some fault => .error (.invalidBoundaries r.name fault)
    | none => .ok (some boundaries)

/-- Registers an instrument under the provider's next id. The checks come before the name is
taken, and a refused request leaves the state in which it is refused. -/
def register (r : InstrumentRequest) : EStateM Error Registration Instrument := do
  if !Instrument.isValidName r.name then throw (.invalidInstrumentName r.name)
  let boundaries ← MonadExcept.ofExcept (boundariesOf r)
  let s ← get
  if s.meter.isTaken r.name then throw (.duplicateInstrument r.name s.meter.scope.name)
  set { s with meter := s.meter.take r.name r.kind }
  let id ← modifyGet fun s => (s.nextId, { s with nextId := s.nextId + 1 })
  return ⟨id, r.name, r.kind, r.unit, r.description, s.meter.scope, boundaries⟩

def diagnostic (m : Meter) : String := "Meter \x7b scope: " ++ m.scope.diagnostic ++ ", .. \x7d"

end Meter

/-- The meters of one provider, which draw the ids of their instruments from one counter. -/
structure Registry where
  meters : List Meter
  nextId : Nat
deriving Repr, Inhabited

namespace Registry

def empty : Registry := ⟨[], 0⟩

/-- Adds a meter and gives its place. -/
def addMeter (r : Registry) (scope : Scope) : Registry × Nat :=
  ({ r with meters := r.meters ++ [.ofScope scope] }, r.meters.length)

/-- Registers an instrument in the meter at a place, or does nothing where there is none. The
registry is what the registration leaves, whether or not it succeeds. -/
def register (r : Registry) (place : Nat) (request : InstrumentRequest) :
    Option (Except Error Instrument × Registry) :=
  r.meters[place]?.map fun meter =>
    let left (s : Registration) : Registry := ⟨r.meters.set place s.meter, s.nextId⟩
    match (Meter.register request).run ⟨meter, r.nextId⟩ with
    | .ok i s => (.ok i, left s)
    | .error e s => (.error e, left s)

end Registry
end Telemetry
