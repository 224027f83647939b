import Telemetry.Time.Instant

/-! Background work on a timeline. What goes on by itself says when its next piece of work is
due and what becomes of it; each piece of work takes a little time, so the timeline moves on
with every one of them. -/
namespace Telemetry.Timeline

/-- How long a piece of work takes. -/
def tick : Duration := ⟨10000⟩

/-- A piece of work: when it is due, and its outcome where it is done at a given time. -/
structure Work (σ : Type) where
  due : Instant
  outcome : Instant → σ

def Work.map {σ τ : Type} (f : σ → τ) (w : Work σ) : Work τ := ⟨w.due, f ∘ w.outcome⟩

/-- Of two pieces of work the one that is due first. -/
def Work.first {σ : Type} : Option (Work σ) → Option (Work σ) → Option (Work σ)
  | some a, some b => some (if a.due ≤ b.due then a else b)
  | a, none => a
  | none, b => b

/-- Does work until `stop` holds or the time is `limit`. Work that would not be done before
the limit is left alone. -/
def advance {σ : Type} (next : Instant → σ → Option (Work σ)) (limit : Instant) (stop : σ → Bool)
    (now : Instant) (s : σ) : Instant × σ :=
  if stop s then (now, s)
  else
    match next now s with
    | none => (now.later limit, s)
    | some work =>
      let done := now.later work.due + tick
      if limit ≤ done then (now.later limit, s) else advance next limit stop done (work.outcome done)
termination_by limit.nanos - now.nanos
decreasing_by
  rename_i late
  have before : ¬ limit.nanos ≤ max now.nanos work.due.nanos + tick.nanos := late
  have short : 0 < tick.nanos := by decide
  change limit.nanos - (max now.nanos work.due.nanos + tick.nanos) < limit.nanos - now.nanos
  omega

end Telemetry.Timeline
