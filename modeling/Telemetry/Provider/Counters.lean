import Telemetry.Channel.Counters

/-! What a metrics provider counts about itself. -/
namespace Telemetry.Provider

structure Counters where
  /-- Values that are not finite, and series refused by a full running state. -/
  rejected : Nat := 0
  /-- Measurements that came once a shutdown had begun. -/
  afterShutdown : Nat := 0
  succeeded : Nat := 0
  failed : Nat := 0
  /-- Exports that the deadline of a shutdown brought to an end. -/
  cancelled : Nat := 0
deriving DecidableEq, Repr, Inhabited

/-- The counters by name, those of the channel last. -/
def Counters.named (c : Counters) (channel : List (String × Nat)) : List (String × Nat) :=
  [("measurement_rejected", c.rejected), ("measurement_after_shutdown", c.afterShutdown),
    ("export_succeeded", c.succeeded), ("export_failed", c.failed),
    ("export_cancelled", c.cancelled)] ++ channel

end Telemetry.Provider
