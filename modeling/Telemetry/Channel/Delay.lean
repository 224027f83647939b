import Telemetry.Time.Duration

/-! Waits that grow from one to the next up to a maximum, and the budget of retries. -/
namespace Telemetry.Channel

structure Delay where
  current : Duration
  step : Duration
  max : Duration
deriving DecidableEq, Repr

namespace Delay

def ofStep (step max : Duration) : Delay := ⟨.zero, step, max⟩

def reset (d : Delay) : Delay := { d with current := .zero }

/-- The next wait: twice the last one and a step more, but not above the maximum. -/
def next (d : Delay) : Duration × Delay :=
  let wait := (d.current + d.current + d.step).shorter d.max
  (wait, { d with current := wait })

end Delay

/-- How often a batch was tried again, and how often it may be. -/
structure Retry where
  current : Nat
  max : Nat
deriving DecidableEq, Repr

namespace Retry

def ofMax (max : Nat) : Retry := ⟨0, max⟩

def reset (r : Retry) : Retry := { r with current := 0 }

/-- Counts one more retry and says whether it is allowed. -/
def next (r : Retry) : Bool × Retry := (r.current + 1 ≤ r.max, { r with current := r.current + 1 })

end Retry
end Telemetry.Channel
