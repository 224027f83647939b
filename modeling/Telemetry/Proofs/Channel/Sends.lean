import Mathlib.Data.List.Perm.Basic
import Telemetry.Proofs.Channel.Ledger

/-! What becomes of each send: its item is let in, the channel has no room for it, or the channel
is closed. Main results: `sent_run` and `overflow_run`. -/
namespace Telemetry.Channel

variable {β ι ω : Type} [Buffer β ι]

namespace Event

def sent (e : Event β ι ω) : List ι :=
  match e.label with
  | .send x => [x]
  | _ => []

/-- The item that comes when the channel is closed. -/
def refused (e : Event β ι ω) : List ι := if e.before.shared.isOpen then [] else e.sent

/-- The item that is counted as overflow. -/
def overflowed (e : Event β ι ω) : List ι :=
  if e.after.shared.counters.overflow = e.before.shared.counters.overflow then [] else e.sent

end Event

variable {first y z : System β ω} {events : List (Event β ι ω)} {label : Label β ι ω}
  {effects : List (Effect β ω)}

/-- A send ends in exactly one of three ways. -/
theorem sent_step (step : System.Step y label z effects) :
    let e : Event β ι ω := ⟨y, label, effects, z⟩
    e.sent = e.accepted ++ e.refused ++ e.overflowed := by
  intro e
  cases step with
  | send x =>
    simp only [e, Event.sent, Event.accepted, Event.refused, Event.overflowed, Shared.send]
    cases y.shared.isOpen with
    | false =>
      have counted (c : Counters) : { c with discarded := c.discarded + 1 } ≠ c := fun same =>
        Nat.succ_ne_self _ (congrArg Counters.discarded same)
      simp [counted]
    | true =>
      have counted (c : Counters) : { c with overflow := c.overflow + 1 } ≠ c := fun same =>
        Nat.succ_ne_self _ (congrArg Counters.overflow same)
      cases full : decide (y.capacity ≤ Buffer.size y.shared.filling) &&
        Buffer.growsWith y.shared.filling x <;> simp [counted]
  | _ => simp [e, Event.sent, Event.accepted, Event.refused, Event.overflowed]

/-- Only a send for which there is no room is counted as overflow, and it counts once. -/
theorem overflow_step (step : System.Step y label z effects) :
    z.shared.counters.overflow =
      y.shared.counters.overflow + (Event.overflowed ⟨y, label, effects, z⟩).length := by
  cases step with
  | send x =>
    simp only [Event.sent, Event.overflowed, Shared.send]
    cases y.shared.isOpen with
    | false => simp
    | true =>
      cases full : decide (y.capacity ≤ Buffer.size y.shared.filling) &&
        Buffer.growsWith y.shared.filling x <;> simp
  | settleOver outcome => cases outcome <;> simp [Outcome.counted, Event.overflowed]
  | _ => simp [Event.overflowed, Shared.close, Shared.abandon, Shared.taken, Shared.emptied,
      Shared.stop, Outcome.counted]

theorem sent_run (run : Run first events y) :
    (events.flatMap Event.sent).Perm (events.flatMap Event.accepted ++
      events.flatMap Event.refused ++ events.flatMap Event.overflowed) := by
  have parts : events.flatMap Event.sent =
      events.flatMap fun e => e.accepted ++ e.refused ++ e.overflowed :=
    List.flatMap_congr fun e member => sent_step (System.step_sound (run.step_of_mem member))
  rw [parts]
  refine (List.flatMap_append_perm _ _ _).symm.trans ?_
  exact (List.flatMap_append_perm _ _ _).symm.append_right _

theorem overflow_run (run : Run first events y) : y.shared.counters.overflow =
    first.shared.counters.overflow + (events.flatMap Event.overflowed).length := by
  induction run with
  | nil => simp
  | snoc _ stepped ih =>
    rw [overflow_step (System.step_sound stepped), ih, List.flatMap_append, List.length_append,
      List.flatMap_singleton, Nat.add_assoc]

end Telemetry.Channel
