/-! The life of a metrics provider. -/
namespace Telemetry.Provider

inductive State where
  /-- Measurements are gathered and nothing is exported yet. -/
  | idle
  | running
  /-- A shutdown waits for the final export. -/
  | draining
  | stopped
deriving DecidableEq, Repr, Inhabited

namespace State

/-- How far along the life a state is. -/
def rank : State → Nat
  | idle => 0
  | running => 1
  | draining => 2
  | stopped => 3

instance : LE State := ⟨fun a b => a.rank ≤ b.rank⟩

instance (a b : State) : Decidable (a ≤ b) := inferInstanceAs (Decidable (a.rank ≤ b.rank))

/-- Whether new measurements are taken. -/
def isAccepting : State → Bool
  | idle | running => true
  | draining | stopped => false

def name : State → String
  | idle => "Idle"
  | running => "Running"
  | draining => "Draining"
  | stopped => "Stopped"

end State
end Telemetry.Provider
