import Mathlib.Data.List.Perm.Basic
import Telemetry.Proofs.Channel.Loop

/-! What becomes of the watchers of a channel. Each is run once or still parked: with the batch that
is being filled, with the batch in the receiver's hands, or with those that wait for the receiver's
exit. Main results: `parked_run` and `watchers_settled`. -/
namespace Telemetry.Channel

variable {β ι ω : Type}

/-- The watchers that an effect runs. What one of them does then, a panic included, keeps none of
the others, and nothing in the channel depends on it. -/
def Effect.watchers : Effect β ω → List ω
  | .notify watchers => watchers
  | _ => []

/-- The watchers of the batch in the receiver's hands. -/
def Receiver.watchers (r : Receiver β ω) : List ω :=
  match r.phase with
  | .calling _ watchers | .running watchers | .deciding _ watchers | .retrying _ watchers => watchers
  | _ => []

/-- The watchers that have not been run. -/
def System.parked (y : System β ω) : List ω :=
  y.shared.waiting ++ y.receiver.watchers ++ y.shared.onStopped

namespace Event

/-- The watcher passed in that waits for the items in the channel. -/
def flushWatcher (e : Event β ι ω) : List ω :=
  match e.label with
  | .onNextFlush w => [w]
  | _ => []

/-- The watcher passed in that waits for the receiver's exit. -/
def stopWatcher (e : Event β ι ω) : List ω :=
  match e.label with
  | .onStopped w => [w]
  | _ => []

def registered (e : Event β ι ω) : List ω := e.flushWatcher ++ e.stopWatcher

def notified (e : Event β ι ω) : List ω := e.effects.flatMap Effect.watchers

end Event

theorem flatMap_watchers_ran (watchers : List ω) :
    (System.ran watchers : List (Effect β ω)).flatMap Effect.watchers = watchers := by
  unfold System.ran
  split
  · next none => rw [List.isEmpty_iff.mp none, List.flatMap_nil]
  · simp [Effect.watchers]

namespace Shared

variable [Buffer β ι]

@[simp] theorem waiting_send (capacity : Nat) (s : Shared β ω) (x : ι) :
    (s.send capacity x).waiting = s.waiting := by
  unfold send
  split
  · rfl
  · split <;> rfl

@[simp] theorem onStopped_send (capacity : Nat) (s : Shared β ω) (x : ι) :
    (s.send capacity x).onStopped = s.onStopped := by
  unfold send
  split
  · rfl
  · split <;> rfl

@[simp] theorem isInBatch_send (capacity : Nat) (s : Shared β ω) (x : ι) :
    (s.send capacity x).isInBatch = s.isInBatch := by
  unfold send
  split
  · rfl
  · split <;> rfl

@[simp] theorem onStopped_onNextFlush (s : Shared β ω) (w : ω) :
    (s.onNextFlush w).1.onStopped = s.onStopped := by
  unfold onNextFlush
  split <;> rfl

omit [Buffer β ι] in
@[simp] theorem waiting_watchStopped (s : Shared β ω) (w : ω) :
    (s.watchStopped w).1.waiting = s.waiting := by
  unfold watchStopped
  split <;> rfl

@[simp] theorem isInBatch_onNextFlush (s : Shared β ω) (w : ω) :
    (s.onNextFlush w).1.isInBatch = s.isInBatch := by
  unfold onNextFlush
  split <;> rfl

omit [Buffer β ι] in
@[simp] theorem isInBatch_watchStopped (s : Shared β ω) (w : ω) :
    (s.watchStopped w).1.isInBatch = s.isInBatch := by
  unfold watchStopped
  split <;> rfl

theorem onNextFlush_cases (s : Shared β ω) (w : ω) :
    ((s.onNextFlush w).2 = [w] ∧ (s.onNextFlush w).1.waiting = s.waiting) ∨
    ((s.onNextFlush w).2 = [] ∧ (s.onNextFlush w).1.waiting = s.waiting ++ [w]) := by
  unfold onNextFlush
  split
  · exact .inl ⟨rfl, rfl⟩
  · exact .inr ⟨rfl, rfl⟩

omit [Buffer β ι] in
theorem watchStopped_cases (s : Shared β ω) (w : ω) :
    ((s.watchStopped w).2 = [w] ∧ (s.watchStopped w).1.onStopped = s.onStopped) ∨
    ((s.watchStopped w).2 = [] ∧ (s.watchStopped w).1.onStopped = s.onStopped ++ [w]) := by
  unfold watchStopped
  split
  · exact .inl ⟨rfl, rfl⟩
  · exact .inr ⟨rfl, rfl⟩

end Shared

variable [Buffer β ι]
variable {first y z : System β ω} {events : List (Event β ι ω)} {label : Label β ι ω}
  {effects : List (Effect β ω)}

/-- A step runs watchers or parks them, and loses none. -/
theorem parked_step (step : System.Step y label z effects) :
    (Event.notified ⟨y, label, effects, z⟩ ++ z.parked).Perm
      (y.parked ++ Event.registered ⟨y, label, effects, z⟩) := by
  simp only [Event.notified, Event.registered, Event.flushWatcher, Event.stopWatcher, System.parked]
  cases step with
  | send x => simp
  | close => simp [Shared.close]
  | onNextFlush w =>
    rw [flatMap_watchers_ran, Shared.onStopped_onNextFlush]
    rcases y.shared.onNextFlush_cases w with ⟨now, waiting⟩ | ⟨later, waiting⟩
    · rw [now, waiting, List.append_nil]
      exact List.perm_append_comm
    · rw [later, waiting]
      have last : ([w] ++ (y.receiver.watchers ++ y.shared.onStopped)).Perm
          (y.receiver.watchers ++ y.shared.onStopped ++ [w]) := List.perm_append_comm
      simpa only [List.nil_append, List.append_nil, List.append_assoc] using last.append_left _
  | onStopped w =>
    rw [flatMap_watchers_ran, Shared.waiting_watchStopped]
    rcases y.shared.watchStopped_cases w with ⟨now, stopped⟩ | ⟨later, stopped⟩
    · rw [now, stopped, List.nil_append]
      exact List.perm_append_comm
    · rw [later, stopped]
      simp
  | abandon =>
    rw [flatMap_watchers_ran]
    simp [Shared.abandon]
  | enter now r phase entered =>
    simp [Receiver.watchers, phase, Receiver.phase_enter entered]
  | lookTook now later phase =>
    simp [Receiver.watchers, Receiver.taking, Shared.taken, phase]
  | leave phase =>
    simp [Receiver.watchers, Shared.stop, Effect.watchers, phase]
  | settleOver _ _ phase | decideAbandoned _ _ phase | decideOver _ _ phase =>
    simpa [Receiver.watchers, Effect.watchers, phase] using List.perm_append_comm_assoc _ _ _
  | lookEarly _ _ phase | lookEmpty _ _ phase | lookEnded _ _ phase =>
    simp [Receiver.watchers, Receiver.rest, Shared.emptied, Effect.watchers, phase]
  | decideRetry _ _ phase => simp [Receiver.watchers, Receiver.retried, Effect.watchers, phase]
  | enterBeyondClock _ phase | drop phase | lookAbandoned _ _ phase | invoke _ _ phase
  | settleRetryable _ _ phase | wakeRetry _ _ phase | wakeIdle phase =>
    simp [Receiver.watchers, Effect.watchers, phase]

theorem parked_run (run : Run first events y) :
    (events.flatMap Event.notified ++ y.parked).Perm
      (first.parked ++ events.flatMap Event.registered) := by
  induction run with
  | nil => simp
  | @snoc events y z label effects _ stepped ih =>
    have here := parked_step (System.step_sound stepped)
    have earlier := ih.append_right (Event.registered ⟨y, label, effects, z⟩)
    have now := here.append_left (events.flatMap Event.notified)
    simp only [List.flatMap_append, List.flatMap_cons, List.flatMap_nil, List.append_nil,
      List.append_assoc] at earlier now ⊢
    exact now.trans earlier

/-- Until the receiver has exited, the watchers that wait for that stay where they are. -/
theorem onStopped_step (step : System.Step y label z effects) (inside : z.shared.isStopped = false) :
    z.shared.onStopped = y.shared.onStopped ++ Event.stopWatcher ⟨y, label, effects, z⟩ := by
  cases step with
  | leave => cases inside
  | onStopped w =>
    have running : y.shared.isStopped = false := by simpa using inside
    simp [Shared.watchStopped, running, Event.stopWatcher]
  | _ => simp [Shared.close, Shared.abandon, Shared.taken, Shared.emptied, Event.stopWatcher]

/-- A watcher that waits for the exit goes on waiting, or is run. -/
theorem mem_onStopped_step (step : System.Step y label z effects) {w : ω}
    (waits : w ∈ y.shared.onStopped) :
    w ∈ z.shared.onStopped ∨ w ∈ Event.notified ⟨y, label, effects, z⟩ := by
  cases step with
  | leave => exact .inr (by simp [Event.notified, Effect.watchers, waits])
  | onStopped v =>
    refine .inl ?_
    rcases y.shared.watchStopped_cases v with ⟨_, same⟩ | ⟨_, more⟩
    · rwa [same]
    · rw [more]
      exact List.mem_append_left _ waits
  | _ => exact .inl (by simpa [Shared.close, Shared.abandon, Shared.taken, Shared.emptied] using waits)

theorem onStopped_run (run : Run first events y) (inside : y.shared.isStopped = false) :
    y.shared.onStopped = first.shared.onStopped ++ events.flatMap Event.stopWatcher := by
  induction run with
  | nil => simp
  | @snoc events y z label effects _ stepped ih =>
    have step := System.step_sound stepped
    have before : y.shared.isStopped = false :=
      Bool.eq_false_iff.mpr fun stopped =>
        Bool.false_ne_true (inside.symm.trans ((isStopped_step step).mpr (.inl stopped)))
    rw [onStopped_step step inside, ih before]
    simp

/-- Until the receiver has exited, only watchers that wait for the items are run. -/
theorem flushWatchers_run (run : Run first events y) (inside : y.shared.isStopped = false)
    (fresh : first.parked = []) :
    (events.flatMap Event.notified ++ (y.shared.waiting ++ y.receiver.watchers)).Perm
      (events.flatMap Event.flushWatcher) := by
  have stopped : first.shared.onStopped = [] := (List.append_eq_nil_iff.mp fresh).2
  have all := parked_run run
  have split := List.flatMap_append_perm events Event.flushWatcher Event.stopWatcher
  rw [fresh, System.parked, onStopped_run run inside, stopped, ← List.append_assoc] at all
  exact (List.perm_append_right_iff _).mp (all.trans split.symm)

/-- The flag of a batch is set only once the receiver looks at the channel, and left behind only
by an abandonment. -/
structure System.Marked (y : System β ω) : Prop where
  fresh : y.receiver.phase = .created → y.shared.isInBatch = false
  out : y.receiver.phase = .leaving ∨ y.receiver.phase = .exited →
    y.shared.isInBatch = true → y.shared.isAbandoned = true

theorem marked_step (marked : y.Marked) (step : System.Step y label z effects) : z.Marked := by
  obtain ⟨fresh, out⟩ := marked
  cases step with
  | send | onNextFlush | onStopped | close =>
    exact ⟨by simpa [Shared.close] using fresh, by simpa [Shared.close] using out⟩
  | abandon => exact ⟨fresh, fun _ _ => rfl⟩
  | enter now r phase entered => constructor <;> simp [Receiver.phase_enter entered]
  | enterBeyondClock _ phase | drop phase => constructor <;> simp [fresh phase]
  | lookAbandoned _ _ _ abandoned => constructor <;> simp [abandoned]
  | lookEnded => constructor <;> simp [Shared.emptied]
  | leave phase => exact ⟨by simp, fun _ => out (.inl phase)⟩
  | _ => constructor <;> simp [Receiver.rest, Receiver.taking, Receiver.retried]

/-- A channel whose receiver has exited. Only a flag of a batch left behind can park a watcher. -/
structure System.Deserted (y : System β ω) : Prop where
  closed : y.shared.isOpen = false
  onStopped : y.shared.onStopped = []
  waiting : y.shared.isInBatch = false → y.shared.waiting = []

theorem deserted_step (deserted : y.shared.isStopped = true → y.Deserted)
    (phase : y.shared.isStopped = true → y.receiver.phase = .exited)
    (step : System.Step y label z effects) (stopped : z.shared.isStopped = true) : z.Deserted := by
  cases step with
  | leave => exact ⟨rfl, rfl, fun _ => rfl⟩
  | send x =>
    obtain ⟨closed, empty, waiting⟩ := deserted (by simpa using stopped)
    rw [closed_send closed]
    exact ⟨closed, empty, waiting⟩
  | onNextFlush w =>
    obtain ⟨closed, empty, waiting⟩ := deserted (by simpa using stopped)
    cases mark : y.shared.isInBatch with
    | false => simpa [Shared.onNextFlush, mark, closed] using ⟨closed, empty, waiting⟩
    | true => constructor <;> simp [Shared.onNextFlush, mark, closed, empty]
  | onStopped w =>
    have before : y.shared.isStopped = true := by simpa using stopped
    simpa [Shared.watchStopped, before] using deserted before
  | close => exact ⟨rfl, (deserted stopped).onStopped, (deserted stopped).waiting⟩
  | abandon => exact ⟨rfl, (deserted stopped).onStopped, fun _ => rfl⟩
  | _ => simp_all [Shared.taken, Shared.emptied]

theorem deserted_run (run : Run first events y) (fresh : first.shared.isStopped = false) :
    y.shared.isStopped = true → y.Deserted := by
  induction run with
  | nil => exact fun stopped => absurd stopped (Bool.eq_false_iff.mp fresh)
  | snoc run stepped ih =>
    exact deserted_step ih (exited_of_stopped run fresh) (System.step_sound stepped)

/-- What a run makes of the watchers passed in. -/
structure Watched (events : List (Event β ι ω)) (y : System β ω) : Prop where
  /-- Each is run once or parked, and none is lost. -/
  once : (events.flatMap Event.notified ++ y.parked).Perm (events.flatMap Event.registered)
  /-- Until the receiver has exited all those that wait for it are parked, and the others are the
  ones that are run. -/
  inside : y.shared.isStopped = false →
    y.shared.onStopped = events.flatMap Event.stopWatcher ∧
    (events.flatMap Event.notified ++ (y.shared.waiting ++ y.receiver.watchers)).Perm
      (events.flatMap Event.flushWatcher)
  /-- Those passed in before the receiver exits have been run as it does. -/
  leaving : ∀ before e after, events = before ++ e :: after → e.label = .leave →
    ((before ++ [e]).flatMap Event.notified).Perm ((before ++ [e]).flatMap Event.registered)
  /-- Afterwards none that waits for the exit is parked, and each is run at once. The same holds of
  those that wait for the items exactly where no flag of a batch is left behind, as it can be by an
  abandonment alone. -/
  outside : y.shared.isStopped = true →
    y.shared.onStopped = [] ∧ y.receiver.watchers = [] ∧
    (y.shared.isInBatch = true → y.shared.isAbandoned = true) ∧
    ∀ w, (y.shared.watchStopped w).2 = [w] ∧
      (y.shared.waiting = [] ∧ (y.shared.onNextFlush w).2 = [w] ↔ y.shared.isInBatch = false)

theorem parked_leave (step : System.Step y (.leave : Label β ι ω) z effects) : z.parked = [] := by
  cases step with
  | leave => rfl

theorem watchers_settled {capacity : Nat} {interval : Option Duration} {threshold : Option Nat}
    {maxRetries : Nat}
    (run : Run (.start capacity (.create interval threshold maxRetries)) events y) :
    Watched events y where
  once := parked_run run
  inside inside := ⟨onStopped_run run inside, flushWatchers_run run inside rfl⟩
  leaving before e after whole leaves := by
    rw [whole] at run
    obtain ⟨left, here, _⟩ := run.split
    have all := parked_run (Run.snoc left here)
    have none : e.after.parked = [] := parked_leave (leaves ▸ System.step_sound here)
    rw [none, List.append_nil] at all
    exact all
  outside stopped := by
    obtain ⟨closed, empty, waiting⟩ := deserted_run run rfl stopped
    have exited := exited_of_stopped run rfl stopped
    have start : (System.start capacity (.create interval threshold maxRetries) :
        System β ω).Marked := ⟨fun _ => rfl, by simp [System.start, Receiver.create]⟩
    have marked := (run.keeps System.Marked start
      fun stepped marked => marked_step marked (System.step_sound stepped)).2
    refine ⟨empty, by simp [Receiver.watchers, exited], marked.out (.inr exited), fun w => ⟨?_, ?_⟩⟩
    · simp [Shared.watchStopped, stopped]
    · cases mark : y.shared.isInBatch with
      | false => simp [Shared.onNextFlush, mark, closed, waiting mark]
      | true => simp [Shared.onNextFlush, mark]

/-- One watcher waits for a batch that is tried twice, one is run at once, and one waits for the
exit. -/
def watchful : List (Label (List Nat) Nat Nat) :=
  [.onStopped 0, .enter ⟨0⟩, .onNextFlush 1, .send 1, .onNextFlush 2, .look ⟨0⟩ ⟨0⟩, .invoke,
    .onNextFlush 3, .settle (.failed [1]), .decide, .wake, .invoke, .settle .processed, .close,
    .look ⟨0⟩ ⟨0⟩, .leave, .onNextFlush 4]

theorem watchers_settled_watchful :
    let first : System (List Nat) Nat := .start 2 (.create none none 10)
    let events := follow System.step first watchful
    (endOf first events).shared.isStopped = true ∧
      (events.flatMap Event.notified).Perm [0, 1, 2, 3, 4] := by
  intro first events
  have once := (watchers_settled (run_follow System.step first watchful)).once
  have none : (endOf first events).parked = [] := rfl
  rw [none, List.append_nil] at once
  exact ⟨rfl, once⟩

/-- The channel is abandoned while its last batch is at work. -/
def abandonedBatch : List (Label (List Nat) Nat Nat) :=
  [.enter ⟨0⟩, .send 1, .look ⟨0⟩ ⟨0⟩, .invoke, .abandon, .settle .processed, .look ⟨0⟩ ⟨0⟩, .leave,
    .onNextFlush 0]

/-- A watcher is parked after the receiver has exited, and none is left to run it. -/
theorem watcher_lost :
    let first : System (List Nat) Nat := .start 2 (.create none none 10)
    let events := follow System.step first abandonedBatch
    (endOf first events).shared.isStopped = true ∧ (endOf first events).shared.waiting = [0] ∧
      events.flatMap Event.notified = [] := ⟨rfl, rfl, rfl⟩

end Telemetry.Channel
