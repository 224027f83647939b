import Telemetry.Proofs.Channel.Barrier
import Telemetry.Proofs.Channel.Progress

/-! A flush that was asked for. As long as a watcher waits with the batch that is being filled, the
next look at the channel is due, whatever the interval; it takes all that is there, and the watchers
run once the batch is over, whatever became of it. Main result: `flush_not_left_waiting`. -/
namespace Telemetry.Channel

variable {β ι ω : Type}

/-- However a watcher ends, the next one starts from where it left off. -/
theorem run_runAll {σ ε : Type} (act : ω → ExceptT ε (StateM σ) Unit) (watchers : List ω) (s : σ) :
    ((runAll act watchers).run s).2 = watchers.foldl (fun s w => ((act w).run.run s).2) s := by
  induction watchers generalizing s with
  | nil => rfl
  | cons w rest ih => exact ih ((act w).run.run s).2

/-- How many steps the receiver takes at most until the batch in its hands is over. -/
def Receiver.stepsInHand (r : Receiver β ω) : Nat :=
  match r.phase with
  | .calling _ _ => 4 * r.retriesLeft + 3
  | .running _ => 4 * r.retriesLeft + 2
  | .deciding _ _ => 4 * r.retriesLeft + 1
  | .retrying _ _ => 4 * r.retriesLeft + 4
  | _ => 0

theorem stepsInHand_le (r : Receiver β ω) : r.stepsInHand ≤ 4 * r.retry.max + 4 := by
  unfold Receiver.stepsInHand Receiver.retriesLeft
  split <;> omega

/-- A look at the channel. -/
def Event.looks (e : Event β ι ω) : Bool :=
  match e.label with
  | .look _ _ => true
  | _ => false

variable [Buffer β ι]
variable {first y z : System β ω} {events more : List (Event β ι ω)} {label : Label β ι ω}
  {effects : List (Effect β ω)}

/-- A watcher waits with the batch that is being filled only where a flush is asked for. -/
def System.Asked (y : System β ω) : Prop :=
  y.shared.waiting ≠ [] → y.shared.isFlushRequested = true

@[simp] theorem isFlushRequested_send (capacity : Nat) (s : Shared β ω) (x : ι) :
    (s.send capacity x).isFlushRequested = s.isFlushRequested := by
  unfold Shared.send
  split
  · rfl
  · split <;> rfl

omit [Buffer β ι] in
@[simp] theorem isFlushRequested_watchStopped (s : Shared β ω) (w : ω) :
    (s.watchStopped w).1.isFlushRequested = s.isFlushRequested := by
  unfold Shared.watchStopped
  split <;> rfl

theorem asked_step (asked : y.Asked) (step : System.Step y label z effects) : z.Asked := by
  cases step with
  | send x => simpa [System.Asked] using asked
  | onNextFlush w =>
    intro waits
    change (y.shared.onNextFlush w).1.waiting ≠ [] at waits
    change (y.shared.onNextFlush w).1.isFlushRequested = true
    unfold Shared.onNextFlush at waits ⊢
    split at waits
    · next ran => rw [if_pos ran]; exact asked waits
    · next scheduled => rw [if_neg scheduled]
  | onStopped w => simpa [System.Asked] using asked
  | abandon | lookTook | lookEnded | lookEmpty | leave => exact fun waits => absurd rfl waits
  | _ => exact asked

theorem asked_run {capacity : Nat} {interval : Option Duration} {threshold : Option Nat}
    {maxRetries : Nat}
    (run : Run (.start capacity (.create interval threshold maxRetries)) events y) : y.Asked :=
  (run.keeps System.Asked (fun waits => absurd rfl waits)
    fun stepped asked => asked_step asked (System.step_sound stepped)).2

/-- Until the next look those that wait go on waiting, unless an abandonment or the receiver's exit
runs them all. -/
theorem waiting_unlooked (step : System.Step y label z effects)
    (unlooked : Event.looks ⟨y, label, effects, z⟩ = false) :
    y.shared.waiting <+: z.shared.waiting ∨
      ∀ w ∈ y.shared.waiting, w ∈ Event.notified ⟨y, label, effects, z⟩ := by
  cases step with
  | send x => exact .inl (by simp)
  | onNextFlush w =>
    refine .inl ?_
    rcases y.shared.onNextFlush_cases w with ⟨_, same⟩ | ⟨_, more⟩
    · exact same ▸ List.prefix_rfl
    · exact more ▸ List.prefix_append _ _
  | onStopped w => exact .inl (by simp)
  | abandon => exact .inr fun w waits => by simpa [Event.notified, flatMap_watchers_ran] using waits
  | leave => exact .inr fun w waits => by simp [Event.notified, Effect.watchers, waits]
  | lookAbandoned | lookEarly | lookTook | lookEnded | lookEmpty => cases unlooked
  | _ => exact .inl List.prefix_rfl

theorem waiting_unlooked_run (run : Run y more z) (unlooked : ∀ e ∈ more, Event.looks e = false) :
    y.shared.waiting <+: z.shared.waiting ∨
      ∀ w ∈ y.shared.waiting, w ∈ more.flatMap Event.notified := by
  induction run with
  | nil => exact .inl List.prefix_rfl
  | snoc _ stepped ih =>
    rw [List.flatMap_append, List.flatMap_singleton]
    rcases ih fun e member => unlooked e (List.mem_append_left _ member) with stays | ran
    · rcases waiting_unlooked (System.step_sound stepped) (unlooked _ (by simp)) with still | now
      · exact .inl (stays.trans still)
      · exact .inr fun w waits => List.mem_append_right _ (now w (stays.subset waits))
    · exact .inr fun w waits => List.mem_append_left _ (ran w waits)

/-- A batch in hand stays with its watchers until it is over, and they run as it is. -/
theorem inHand_step (step : System.Step y label z effects) (holds : y.receiver.isHolding = true) :
    (Event.finishes ⟨y, label, effects, z⟩ = true ∧ effects = [.notify y.receiver.watchers]) ∨
    (z.receiver.isHolding = true ∧ z.receiver.watchers = y.receiver.watchers ∧
      z.receiver.stepsInHand + (if label.isReceiver then 1 else 0) ≤ y.receiver.stepsInHand) := by
  cases step with
  | send | onNextFlush | onStopped | close | abandon => exact .inr ⟨holds, rfl, Nat.le_refl _⟩
  | settleOver _ _ phase | decideAbandoned _ _ phase | decideOver _ _ phase =>
    exact .inl (by simp [Event.finishes, Receiver.isHolding, Receiver.watchers, phase])
  | decideRetry b watchers phase _ allowed =>
    have fewer : y.receiver.retry.current + 1 ≤ y.receiver.retry.max := by
      simpa [Retry.next] using allowed
    refine .inr ⟨rfl, by simp [Receiver.watchers, Receiver.retried, phase], ?_⟩
    simp only [Receiver.stepsInHand, Receiver.retriesLeft, Receiver.retried, Retry.next, phase,
      Label.isReceiver, if_true]
    omega
  | invoke _ _ phase | settleRetryable _ _ phase | wakeRetry _ _ phase =>
    refine .inr ⟨rfl, by simp [Receiver.watchers, phase], ?_⟩
    simp [Receiver.stepsInHand, Receiver.retriesLeft, phase, Label.isReceiver]
  | enter _ _ phase | enterBeyondClock _ phase | drop phase | lookAbandoned _ _ phase
  | lookEarly _ _ phase | lookTook _ _ phase | lookEnded _ _ phase | lookEmpty _ _ phase
  | wakeIdle phase | leave phase => simp [Receiver.isHolding, phase] at holds

/-- What has become of a batch taken with `watchers`, where `more` has happened since. -/
inductive InHand (watchers : List ω) (bound : Nat) (more : List (Event β ι ω)) (y : System β ω) :
    Prop where
  /-- The batch is over, whatever its outcome, and the watchers ran then. -/
  | ended (left : List (Event β ι ω)) (e : Event β ι ω) (right : List (Event β ι ω))
      (whole : more = left ++ e :: right) (finishes : e.finishes = true)
      (ran : e.effects = [.notify watchers])
  /-- The receiver has it still, and can take its next step, of which only so many are left. -/
  | held (watchers : y.receiver.watchers = watchers)
      (few : more.countP (fun e => e.label.isReceiver) ≤ bound)
      (able : ∀ now later outcome, ∃ label : Label β ι ω,
        y.nextLabel now later outcome = some label ∧ label.isReceiver = true ∧
          (y.step label).isSome = true)

theorem inHand_run (run : Run y more z) (holds : y.receiver.isHolding = true) :
    InHand y.receiver.watchers (4 * y.receiver.retry.max + 4) more z := by
  suffices kept : (∃ left e right, more = left ++ e :: right ∧ Event.finishes e = true ∧
      e.effects = [.notify y.receiver.watchers]) ∨
      (z.receiver.isHolding = true ∧ z.receiver.watchers = y.receiver.watchers ∧
        more.countP (fun e => e.label.isReceiver) + z.receiver.stepsInHand ≤
          y.receiver.stepsInHand) by
    rcases kept with ⟨left, e, right, whole, finishes, ran⟩ | ⟨holding, same, spent⟩
    · exact .ended left e right whole finishes ran
    · have inside : z.receiver.phase ≠ .exited := fun exited => by
        simp [Receiver.isHolding, exited] at holding
      refine .held same ?_ (z.exists_nextLabel inside)
      exact Nat.le_trans (Nat.le_of_add_right_le spent) (stepsInHand_le y.receiver)
  -- Along the run, the steps made and those that are left are together no more than at first.
  induction run with
  | nil => exact .inr ⟨holds, rfl, by simp⟩
  | @snoc more y z label effects _ stepped ih =>
    rcases ih with ⟨left, e, right, rfl, finishes, ran⟩ | ⟨holding, same, spent⟩
    · exact .inl ⟨left, e, right ++ [⟨y, label, effects, z⟩], by simp, finishes, ran⟩
    · rcases inHand_step (System.step_sound stepped) holding with
        ⟨finishes, ran⟩ | ⟨still, kept, fewer⟩
      · exact .inl ⟨_, _, [], rfl, finishes, same ▸ ran⟩
      · refine .inr ⟨still, kept.trans same, ?_⟩
        rw [List.countP_append, List.countP_singleton]
        dsimp only
        omega

/-- What a look makes of all that a channel holds. -/
inductive Swept (bound : Nat) (y z : System β ω) (effects : List (Effect β ω)) : Prop where
  /-- All items go into one batch, and all watchers with it. They run after it. -/
  | taken (phase : z.receiver.phase = .calling y.shared.filling y.shared.waiting)
      (filling : z.shared.filling = Buffer.empty) (waiting : z.shared.waiting = [])
      (after : ∀ (more : List (Event β ι ω)) u, Run z more u →
        InHand y.shared.waiting bound more u)
  /-- There are no items, and all watchers run. -/
  | empty (none : y.shared.queueLength = 0) (waiting : z.shared.waiting = [])
      (ran : effects.head? = some (.notify y.shared.waiting))
  /-- The channel was abandoned, and the receiver exits. -/
  | gone (abandoned : y.shared.isAbandoned = true) (same : z.shared = y.shared)
      (exits : ∃ u, z.step (.leave : Label β ι ω) =
        some (u, [.notify (y.shared.waiting ++ y.shared.onStopped)]) ∧ u.receiver.phase = .exited)

theorem swept {now later : Instant} (due : y.receiver.isDue now y.shared = true)
    (step : System.Step y (.look now later : Label β ι ω) z effects) :
    Swept (ι := ι) (4 * y.receiver.retry.max + 4) y z effects := by
  cases step with
  | lookEarly _ _ _ _ early => cases due.symm.trans early
  | lookTook => exact .taken rfl rfl rfl fun more u run => inHand_run run rfl
  | lookEnded _ _ _ _ _ none => exact .empty none rfl rfl
  | lookEmpty _ _ _ _ _ none => exact .empty none rfl rfl
  | lookAbandoned _ _ _ abandoned => exact .gone abandoned rfl ⟨_, rfl, rfl⟩

/-- What awaits the watchers that wait with the batch that is being filled. -/
structure Pending (bound : Nat) (y : System β ω) : Prop where
  asked : y.shared.isFlushRequested = true
  /-- They wait until the next look, unless an abandonment or the receiver's exit runs them all. -/
  stays : ∀ (more : List (Event β ι ω)) z, Run y more z → (∀ e ∈ more, Event.looks e = false) →
    y.shared.waiting <+: z.shared.waiting ∨ ∀ w ∈ y.shared.waiting, w ∈ more.flatMap Event.notified
  /-- The next look is due, and leaves nothing in the channel. -/
  look : y.receiver.phase = .looking → ∀ now later, y.receiver.isDue now y.shared = true ∧
    ∃ z effects, y.step (.look now later : Label β ι ω) = some (z, effects) ∧
      Swept (ι := ι) bound y z effects

/-- In every state that a channel can be in, a flush is asked for where a watcher waits with the
batch that is being filled. The next look is due then, takes all that is there and runs the watchers
after the batch; and running watchers runs each of them, whatever becomes of the others. -/
theorem flush_not_left_waiting {capacity : Nat} {interval : Option Duration}
    {threshold : Option Nat} {maxRetries : Nat}
    (run : Run (.start capacity (.create interval threshold maxRetries)) events y)
    (waits : y.shared.waiting ≠ []) :
    Pending (ι := ι) (4 * maxRetries + 4) y ∧
    ∀ {σ ε : Type} (act : ω → ExceptT ε (StateM σ) Unit) (watchers : List ω) (s : σ),
      ((runAll act watchers).run s).2 = watchers.foldl (fun s w => ((act w).run.run s).2) s := by
  have asked := asked_run run waits
  have max : y.receiver.retry.max = maxRetries := max_run run
  refine ⟨⟨asked, fun more z rest unlooked => waiting_unlooked_run rest unlooked, ?_⟩, run_runAll⟩
  intro looking now later
  have due : y.receiver.isDue now y.shared = true := by simp [Receiver.isDue, asked]
  obtain ⟨⟨z, effects⟩, stepped⟩ := Option.isSome_iff_exists.mp
    (show (y.step (.look now later : Label β ι ω)).isSome = true by simp [System.step, looking])
  exact ⟨due, z, effects, stepped, max ▸ swept due (System.step_sound stepped)⟩

/-- A flush is asked for while the batch of another is at work, and long before the next tick. -/
def asking : List (Label (List Nat) Nat Nat) :=
  [.enter ⟨0⟩, .send 1, .onNextFlush 0, .look ⟨1⟩ ⟨1⟩, .invoke, .send 2, .onNextFlush 1,
    .settle .panicked]

/-- A watcher notes that it runs, and then panics. -/
def outcry (w : Nat) : ExceptT Unit (StateM (List Nat)) Unit := do
  modify (· ++ [w])
  throw ()

theorem flush_not_left_waiting_asking :
    let first : System (List Nat) Nat := .start 2 (.create (some ⟨1000⟩) (some 2) 10)
    let y := endOf first (follow System.step first asking)
    y.shared.waiting = [1] ∧ y.receiver.isTickDue ⟨2⟩ = false ∧ Pending (ι := Nat) 44 y ∧
      ((runAll outcry [1, 2, 3]).run []).2 = [1, 2, 3] := by
  intro first y
  obtain ⟨pending, runs⟩ := flush_not_left_waiting (run_follow System.step first asking) (by decide)
  exact ⟨rfl, rfl, pending, (runs outcry [1, 2, 3] []).trans rfl⟩

end Telemetry.Channel
