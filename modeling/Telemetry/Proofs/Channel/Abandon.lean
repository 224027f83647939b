import Telemetry.Proofs.Channel.Progress

/-! What an abandonment stops. The receiver takes no other batch, tries none again that fails
from then on, and returns. Only a batch that is on its way to the callback still gets there, be it
just taken or at the end of a wait. Main result: `abandon_final_iff`. -/
namespace Telemetry.Channel

variable {β ι ω : Type}

/-- Whether a batch is on its way to the callback: it has just been taken, or it waits to be tried
again. Nothing looks at the channel again before the callback starts. -/
def Receiver.owesCall (r : Receiver β ω) : Bool :=
  match r.phase with
  | .calling _ _ | .retrying _ _ => true
  | _ => false

/-- How often the callback of an abandoned channel can still start. -/
def System.callsLeft (y : System β ω) : Nat := if y.receiver.owesCall then 1 else 0

theorem System.callsLeft_le_one (y : System β ω) : y.callsLeft ≤ 1 := by
  unfold callsLeft
  split <;> omega

variable [Buffer β ι]
variable {first y z : System β ω} {more : List (Event β ι ω)} {label : Label β ι ω}
  {effects : List (Effect β ω)}

theorem takes_abandoned (step : System.Step y label z effects)
    (gone : y.shared.isAbandoned = true) : Event.takes ⟨y, label, effects, z⟩ = false := by
  cases step with
  | lookTook _ _ _ kept => exact absurd (gone.symm.trans kept) (by simp)
  | _ => simp [Event.takes, Receiver.rest]

theorem callsLeft_step (step : System.Step y label z effects)
    (gone : y.shared.isAbandoned = true) :
    z.callsLeft + (if Event.invokes ⟨y, label, effects, z⟩ then 1 else 0) ≤ y.callsLeft := by
  by_cases starts : label = .invoke
  · subst starts
    cases step with
    | invoke b watchers phase =>
      simp [System.callsLeft, Receiver.owesCall, phase, Event.invokes, Effect.invoked?]
  rw [invokes_eq_false step starts, if_neg Bool.false_ne_true, Nat.add_zero]
  cases step with
  | invoke => exact absurd rfl starts
  | lookTook _ _ _ kept | decideRetry _ _ _ kept => exact absurd (gone.symm.trans kept) (by simp)
  | send | onNextFlush | onStopped | close | abandon => exact Nat.le_refl _
  | enter now r phase entered =>
    simp [System.callsLeft, Receiver.owesCall, Receiver.phase_enter entered]
  | wakeRetry b watchers phase => simp [System.callsLeft, Receiver.owesCall, phase]
  | _ => simp [System.callsLeft, Receiver.owesCall, Receiver.rest]

theorem step_calling {b : β} {watchers : List ω} (phase : y.receiver.phase = .calling b watchers) :
    y.step (.invoke : Label β ι ω) =
      some ({ y with receiver := { y.receiver with phase := .running watchers } }, [.invoke b]) := by
  simp only [System.step, phase]
  rfl

theorem step_retrying {b : β} {watchers : List ω}
    (phase : y.receiver.phase = .retrying b watchers) :
    ∃ z : System β ω, y.step (.wake : Label β ι ω) = some (z, []) ∧
      z.receiver.phase = .calling b watchers := by
  simp only [System.step, phase]
  exact ⟨_, rfl, rfl⟩

/-- What is on its way to the callback can get there. -/
theorem exists_call (owes : y.receiver.owesCall = true) :
    ∃ (more : List (Event β ι ω)) (w : System β ω), Run y more w ∧
      ∃ e ∈ more, Event.invokes e = true := by
  unfold Receiver.owesCall at owes
  split at owes
  · next b watchers phase =>
    exact ⟨_, _, .one (step_calling phase), _, List.mem_singleton.mpr rfl, rfl⟩
  · next b watchers phase =>
    obtain ⟨z, wakes, calling⟩ := step_retrying (ι := ι) phase
    exact ⟨_, _, .cons wakes (.one (step_calling calling)), _,
      List.mem_cons_of_mem _ (List.mem_singleton.mpr rfl), rfl⟩
  · cases owes

theorem calls_abandoned (run : Run y more z) (gone : y.shared.isAbandoned = true) :
    more.countP Event.invokes ≤ y.callsLeft ∧ ∀ e ∈ more, Event.takes e = false := by
  have abandoned := (run.keeps (fun s => s.shared.isAbandoned = true) gone
    fun stepped gone => (isAbandoned_step (System.step_sound stepped)).mpr (.inl gone)).1
  have spent := run.countP_add_le Event.invokes System.callsLeft fun e member =>
    callsLeft_step (System.step_sound (run.step_of_mem member)) (abandoned e member)
  refine ⟨Nat.le_of_add_right_le spent, fun e member => ?_⟩
  exact takes_abandoned (System.step_sound (run.step_of_mem member)) (abandoned e member)

/-- However a run goes on after an abandonment, no batch is taken, the callback starts at most once,
and the receiver returns. The callback does not start at all exactly where the abandonment finds no
batch on its way to it. -/
theorem abandon_final_iff [LawfulBuffer β ι] {capacity : Nat} {interval : Option Duration}
    {threshold : Option Nat} {maxRetries : Nat} {events : List (Event β ι ω)}
    (run : Run (.start capacity (.create interval threshold maxRetries)) events y)
    (abandons : y.step (.abandon : Label β ι ω) = some (z, effects)) :
    ((∀ (more : List (Event β ι ω)) w, Run z more w → ∀ e ∈ more, Event.invokes e = false) ↔
      y.receiver.owesCall = false) ∧
    (∀ (more : List (Event β ι ω)) w, Run z more w →
      more.countP Event.invokes ≤ 1 ∧ ∀ e ∈ more, Event.takes e = false) ∧
    z.ReturnsWithin (8 * maxRetries + 10) := by
  have max : y.receiver.retry.max = maxRetries := max_run run
  cases abandons
  refine ⟨⟨fun never => ?_, fun free more w rest => ?_⟩, fun more w rest => ?_, ?_⟩
  · by_contra owes
    obtain ⟨more, w, rest, e, member, starts⟩ := exists_call (ι := ι)
      (y := { y with shared := y.shared.abandon.1 }) (by simpa using owes)
    exact absurd (never more w rest e member) (by simp [starts])
  · have few := (calls_abandoned rest rfl).1
    rw [show System.callsLeft _ = 0 by simp [System.callsLeft, free]] at few
    intro e member
    simpa using List.countP_eq_zero.mp (Nat.le_zero.mp few) e member
  · obtain ⟨few, none⟩ := calls_abandoned rest rfl
    exact ⟨Nat.le_trans few (System.callsLeft_le_one _), none⟩
  · exact max ▸ returnsWithin_of_closed rfl

/-- A batch at work in the callback, and an item behind it. -/
def underWay : List (Label (List Nat) Nat Nat) :=
  [.enter ⟨0⟩, .send 1, .look ⟨0⟩ ⟨0⟩, .invoke, .send 2]

/-- The attempt under way fails, and the receiver leaves. -/
def leavingEarly : List (Label (List Nat) Nat Nat) :=
  [.send 3, .settle (.failed [1]), .decide, .look ⟨0⟩ ⟨0⟩, .leave]

theorem abandon_final_iff_underWay :
    let first : System (List Nat) Nat := .start 2 (.create none none 10)
    let y := endOf first (follow System.step first underWay)
    let z := { y with shared := y.shared.abandon.1 }
    y.step (.abandon : Label (List Nat) Nat Nat) = some (z, []) ∧
      (endOf z (follow System.step z leavingEarly)).receiver.phase = .exited ∧
      ∀ e ∈ follow System.step z leavingEarly, Event.invokes e = false := by
  refine ⟨rfl, rfl, ?_⟩
  exact (abandon_final_iff (run_follow _ _ underWay) rfl).1.mpr rfl _ _ (run_follow _ _ leavingEarly)

/-- The callback starts after the channel was abandoned. -/
def CallsAbandoned (labels : List (Label (List Nat) Nat Nat)) : Prop :=
  ∃ before e after, follow System.step (.start 2 (.create none none 10)) labels =
    before ++ e :: after ∧ Event.isAbandon e = true ∧ after.any Event.invokes = true

/-- The channel is abandoned while a batch waits to be tried again. -/
def abandonedRetry : List (Label (List Nat) Nat Nat) :=
  underWay ++ [.settle (.failed [1]), .decide, .abandon, .wake, .invoke]

/-- The channel is abandoned as a batch is taken and not yet handed over. -/
def abandonedTake : List (Label (List Nat) Nat Nat) :=
  [.enter ⟨0⟩, .send 1, .look ⟨0⟩ ⟨0⟩, .abandon, .invoke]

theorem abandon_not_final : CallsAbandoned abandonedRetry ∧ CallsAbandoned abandonedTake :=
  ⟨⟨_, _, _, (List.take_append_drop 7 _).symm, rfl, rfl⟩,
    ⟨_, _, _, (List.take_append_drop 3 _).symm, rfl, rfl⟩⟩

end Telemetry.Channel
