import Mathlib.Algebra.Ring.Nat
import Mathlib.Data.List.Induction
import Telemetry.Proofs.Channel.Step

/-! Where the items go that a channel lets in. A run is read as a ledger: the items of every
batch taken, those that an abandonment cleared, and those that still wait. Main results:
`Ledger.of_run`, which ties the ledger to what the buffers hold, and `sends_accounted`. -/
namespace Telemetry.Channel

variable {β ι ω : Type} [Buffer β ι]

/-- The buffer that items pushed one after the other fill. -/
def fill (items : List ι) : β := items.foldl Buffer.push Buffer.empty

@[simp] theorem fill_nil : (fill [] : β) = Buffer.empty := rfl

theorem fill_concat (items : List ι) (x : ι) :
    (fill (items ++ [x]) : β) = Buffer.push (fill items) x := by
  simp [fill, List.foldl_append]

theorem fill_list (items : List ι) : (fill items : List ι) = items := by
  induction items using List.reverseRecOn with
  | nil => rfl
  | append_singleton items x ih => rw [fill_concat, ih]; rfl

theorem map_fill_list (l : List (List ι)) : (l.map fill : List (List ι)) = l :=
  (List.map_congr_left fun items _ => fill_list items).trans (List.map_id l)

/-- The items that were dropped because the channel was full or closed. -/
def Counters.dropped (c : Counters) : Nat := c.overflow + c.discarded

namespace Shared

/-- A send is counted, or its item joins the batch that is being filled. -/
theorem send_cases (capacity : Nat) (s : Shared β ω) (x : ι) :
    ((s.send capacity x).counters = s.counters ∧
      (s.send capacity x).filling = Buffer.push s.filling x) ∨
    ((s.send capacity x).counters ≠ s.counters ∧ (s.send capacity x).filling = s.filling ∧
      (s.send capacity x).counters.dropped = s.counters.dropped + 1) := by
  unfold send
  split
  · right
    refine ⟨fun same => ?_, rfl, by simp only [Counters.dropped]; omega⟩
    exact absurd (congrArg Counters.discarded same) (Nat.succ_ne_self _)
  · split
    · right
      refine ⟨fun same => ?_, rfl, by simp only [Counters.dropped]; omega⟩
      exact absurd (congrArg Counters.overflow same) (Nat.succ_ne_self _)
    · exact .inl ⟨rfl, rfl⟩

@[simp] theorem isAbandoned_send (capacity : Nat) (s : Shared β ω) (x : ι) :
    (s.send capacity x).isAbandoned = s.isAbandoned := by
  unfold send
  split
  · rfl
  · split <;> rfl

@[simp] theorem filling_onNextFlush (s : Shared β ω) (w : ω) :
    (s.onNextFlush w).1.filling = s.filling := by
  unfold onNextFlush
  split <;> rfl

@[simp] theorem isOpen_onNextFlush (s : Shared β ω) (w : ω) :
    (s.onNextFlush w).1.isOpen = s.isOpen := by
  unfold onNextFlush
  split <;> rfl

@[simp] theorem isAbandoned_onNextFlush (s : Shared β ω) (w : ω) :
    (s.onNextFlush w).1.isAbandoned = s.isAbandoned := by
  unfold onNextFlush
  split <;> rfl

@[simp] theorem counters_onNextFlush (s : Shared β ω) (w : ω) :
    (s.onNextFlush w).1.counters = s.counters := by
  unfold onNextFlush
  split <;> rfl

omit [Buffer β ι] in
@[simp] theorem filling_watchStopped (s : Shared β ω) (w : ω) :
    (s.watchStopped w).1.filling = s.filling := by
  unfold watchStopped
  split <;> rfl

omit [Buffer β ι] in
@[simp] theorem isOpen_watchStopped (s : Shared β ω) (w : ω) :
    (s.watchStopped w).1.isOpen = s.isOpen := by
  unfold watchStopped
  split <;> rfl

omit [Buffer β ι] in
@[simp] theorem isAbandoned_watchStopped (s : Shared β ω) (w : ω) :
    (s.watchStopped w).1.isAbandoned = s.isAbandoned := by
  unfold watchStopped
  split <;> rfl

omit [Buffer β ι] in
@[simp] theorem counters_watchStopped (s : Shared β ω) (w : ω) :
    (s.watchStopped w).1.counters = s.counters := by
  unfold watchStopped
  split <;> rfl

end Shared

/-- The batch that a step hands to the callback, if it does. -/
def Effect.invoked? : Effect β ω → Option β
  | .invoke b => some b
  | _ => none

omit [Buffer β ι] in
theorem filterMap_invoked_ran (watchers : List ω) :
    (System.ran watchers : List (Effect β ω)).filterMap Effect.invoked? = [] := by
  unfold System.ran
  split <;> rfl

/-- A batch that is about to be handed to the callback for the first time: it was not tried
again since it was taken. -/
def System.aboutToHand (y : System β ω) : List β :=
  match y.receiver.phase with
  | .calling b _ => if y.receiver.retry.current = 0 then [b] else []
  | _ => []

namespace Event

def isSend (e : Event β ι ω) : Bool :=
  match e.label with
  | .send _ => true
  | _ => false

def isAbandon (e : Event β ι ω) : Bool :=
  match e.label with
  | .abandon => true
  | _ => false

/-- The item that the channel lets in: its send is counted neither as overflow nor as
discarded. -/
def accepted (e : Event β ι ω) : List ι :=
  match e.label with
  | .send x => if e.after.shared.counters = e.before.shared.counters then [x] else []
  | _ => []

/-- What an abandonment clears. -/
def cleared (e : Event β ι ω) : List β :=
  match e.label with
  | .abandon => [e.before.shared.filling]
  | _ => []

/-- The batch that is handed to the callback for the first time. -/
def handed (e : Event β ι ω) : List β :=
  if e.before.receiver.retry.current = 0 then e.effects.filterMap Effect.invoked? else []

/-- A look at which the receiver leaves its loop. -/
def endsLoop (e : Event β ι ω) : Bool :=
  match e.label, e.after.receiver.phase with
  | .look _ _, .leaving => true
  | _, _ => false

/-- A look that takes a batch. -/
def takes (e : Event β ι ω) : Bool :=
  match e.label, e.after.receiver.phase with
  | .look _ _, .calling _ _ => true
  | _, _ => false

end Event

/-- The items that a channel let in, by what became of them. -/
structure Ledger (ι : Type) where
  /-- The items of each batch taken. -/
  taken : List (List ι) := []
  /-- The items that each abandonment cleared. -/
  cleared : List (List ι) := []
  waiting : List ι := []

namespace Ledger

def note (l : Ledger ι) (e : Event β ι ω) : Ledger ι :=
  match e.label with
  | .send _ => { l with waiting := l.waiting ++ e.accepted }
  | .abandon => { l with cleared := l.cleared ++ [l.waiting], waiting := [] }
  | _ => if e.takes then { l with taken := l.taken ++ [l.waiting], waiting := [] } else l

def of (events : List (Event β ι ω)) : Ledger ι := events.foldl note {}

omit [Buffer β ι] in
theorem of_concat (events : List (Event β ι ω)) (e : Event β ι ω) :
    of (events ++ [e]) = (of events).note e := by
  simp [of, List.foldl_append]

/-- What the ledger of a run says of its buffers: the accepted items are those taken, cleared
and waiting, in this order, and each buffer is filled with the items of its entry. -/
structure Tracks (events : List (Event β ι ω)) (y : System β ω) : Prop where
  accepted : events.flatMap Event.accepted =
    (of events).taken.flatten ++ (of events).cleared.flatten ++ (of events).waiting
  filling : y.shared.filling = fill (of events).waiting
  handed : events.flatMap Event.handed ++ y.aboutToHand = (of events).taken.map fill
  cleared : events.flatMap Event.cleared = (of events).cleared.map fill
  kept : y.shared.isAbandoned = false → (of events).cleared = []
  /-- A batch that waits to be tried again has been counted as a retry. -/
  retried : ∀ b watchers, y.receiver.phase = .retrying b watchers → y.receiver.retry.current ≠ 0

theorem tracks_start (capacity : Nat) (interval : Option Duration) (threshold : Option Nat)
    (maxRetries : Nat) :
    Tracks ([] : List (Event β ι ω)) (.start capacity (.create interval threshold maxRetries)) where
  accepted := rfl
  filling := rfl
  handed := rfl
  cleared := rfl
  kept _ := rfl
  retried := by simp [System.start, Receiver.create]

variable {events : List (Event β ι ω)} {y z : System β ω} {label : Label β ι ω}
  {effects : List (Effect β ω)}

/-- A step that leaves the items where they are. -/
theorem Tracks.keep {e : Event β ι ω} (tracks : Tracks events e.before)
    (noSend : ∀ x, e.label ≠ .send x) (noAbandon : e.label ≠ .abandon) (noTake : e.takes = false)
    (filling : e.after.shared.filling = e.before.shared.filling)
    (kept : e.after.shared.isAbandoned = e.before.shared.isAbandoned)
    (handed : e.handed ++ e.after.aboutToHand = e.before.aboutToHand)
    (retried : ∀ b watchers, e.after.receiver.phase = .retrying b watchers →
      e.after.receiver.retry.current ≠ 0) :
    Tracks (events ++ [e]) e.after := by
  have noAccept : e.accepted = [] := by
    unfold Event.accepted
    split
    · next x same => exact absurd same (noSend x)
    · rfl
  have noClear : e.cleared = [] := by
    unfold Event.cleared
    split
    · next same => exact absurd same noAbandon
    · rfl
  have noted : (of events).note e = of events := by
    unfold note
    split
    · next x same => exact absurd same (noSend x)
    · next same => exact absurd same noAbandon
    · rw [noTake, if_neg Bool.false_ne_true]
  constructor
  · simpa [of_concat, noted, noAccept] using tracks.accepted
  · rw [of_concat, noted, filling, tracks.filling]
  · rw [of_concat, noted, ← tracks.handed, ← handed]
    simp
  · simpa [of_concat, noted, noClear] using tracks.cleared
  · rw [of_concat, noted, kept]
    exact tracks.kept
  · exact retried

theorem Tracks.send (tracks : Tracks events y) (x : ι) :
    Tracks (events ++ [⟨y, .send x, [], { y with shared := y.shared.send y.capacity x }⟩])
      { y with shared := y.shared.send y.capacity x } := by
  have about : System.aboutToHand { y with shared := y.shared.send y.capacity x } =
    y.aboutToHand := rfl
  constructor
  · simp [of_concat, note, tracks.accepted]
  · simp only [of_concat, note, Event.accepted]
    rcases y.shared.send_cases y.capacity x with ⟨let_in, filled⟩ | ⟨counted, same, _⟩
    · rw [if_pos let_in, filled, tracks.filling, fill_concat]
    · rw [if_neg counted, same, tracks.filling, List.append_nil]
  · simpa [of_concat, note, Event.handed, about] using tracks.handed
  · simpa [of_concat, note, Event.cleared] using tracks.cleared
  · simpa [of_concat, note] using tracks.kept
  · exact tracks.retried

theorem Tracks.abandon (tracks : Tracks events y) (effects : List (Effect β ω))
    (ran : effects.filterMap Effect.invoked? = []) :
    Tracks (events ++ [⟨y, (.abandon : Label β ι ω), effects, { y with shared := y.shared.abandon.1 }⟩])
      { y with shared := y.shared.abandon.1 } := by
  have about : System.aboutToHand { y with shared := y.shared.abandon.1 } = y.aboutToHand := rfl
  constructor
  · simp [of_concat, note, tracks.accepted, Event.accepted]
  · simp [of_concat, note, Shared.abandon]
  · simpa [of_concat, note, Event.handed, about, ran] using tracks.handed
  · simp [of_concat, note, Event.cleared, tracks.cleared, tracks.filling]
  · simp [Shared.abandon]
  · exact tracks.retried

theorem Tracks.take (tracks : Tracks events y) (now later : Instant)
    (phase : y.receiver.phase = .looking) (kept : y.shared.isAbandoned = false) :
    Tracks (events ++ [⟨y, (.look now later : Label β ι ω), [],
        { y with receiver := y.receiver.taking now y.shared, shared := y.shared.taken }⟩])
      { y with receiver := y.receiver.taking now y.shared, shared := y.shared.taken } := by
  have before : y.aboutToHand = [] := by simp [System.aboutToHand, phase]
  have about : System.aboutToHand
      { y with receiver := y.receiver.taking now y.shared, shared := y.shared.taken } =
      [y.shared.filling] := by
    simp [System.aboutToHand, Receiver.taking, Retry.reset]
  have noted : (of events).note ⟨y, (.look now later : Label β ι ω), [],
      { y with receiver := y.receiver.taking now y.shared, shared := y.shared.taken }⟩ =
      { of events with taken := (of events).taken ++ [(of events).waiting], waiting := [] } := rfl
  constructor
  · -- Nothing is cleared yet, so the batch goes at the end of those taken, in the order of the sends.
    have none := tracks.kept kept
    have accepted := tracks.accepted
    rw [none] at accepted
    simpa [of_concat, noted, Event.accepted, none] using accepted
  · rw [of_concat, noted]
    rfl
  · have handed := tracks.handed
    rw [before, List.append_nil] at handed
    simp [of_concat, noted, about, Event.handed, handed, tracks.filling]
  · simpa [of_concat, noted, Event.cleared] using tracks.cleared
  · intro _
    simpa [of_concat, noted] using tracks.kept kept
  · simp [Receiver.taking]

/-- One step keeps the ledger in agreement with the buffers. -/
theorem tracks_step (tracks : Tracks events y) (step : System.Step y label z effects) :
    Tracks (events ++ [⟨y, label, effects, z⟩]) z := by
  cases step with
  -- Only these three move items; every other step keeps the ledger as it is.
  | send x => exact tracks.send x
  | abandon => exact tracks.abandon _ (filterMap_invoked_ran _)
  | lookTook now later phase kept due some => exact tracks.take now later phase kept
  | onNextFlush w | onStopped w =>
    refine Tracks.keep tracks (by simp) (by simp) rfl (by simp) (by simp) ?_ tracks.retried
    simp [Event.handed, filterMap_invoked_ran, System.aboutToHand]
  | close =>
    refine Tracks.keep tracks (by simp) (by simp) rfl rfl rfl ?_ tracks.retried
    simp [Event.handed, System.aboutToHand]
  | enter now r phase entered =>
    have looking := Receiver.phase_enter entered
    refine Tracks.keep tracks (by simp) (by simp) rfl rfl rfl ?_ (by simp [looking])
    simp [Event.handed, System.aboutToHand, phase, looking]
  | lookEarly _ _ phase | lookEmpty _ _ phase =>
    refine Tracks.keep tracks (by simp) (by simp) rfl rfl rfl ?_ (by simp [Receiver.rest])
    simp [Event.handed, System.aboutToHand, phase, Receiver.rest, Effect.invoked?]
  | decideRetry b watchers phase kept allowed =>
    refine Tracks.keep tracks (by simp) (by simp) rfl rfl rfl ?_
      (by simp [Receiver.retried, Retry.next])
    simp [Event.handed, System.aboutToHand, phase, Receiver.retried, Effect.invoked?]
  | wakeRetry b watchers phase =>
    -- The batch goes back to the callback, but it is not about to be handed over anew.
    refine Tracks.keep tracks (by simp) (by simp) rfl rfl rfl ?_ (by simp)
    simp [Event.handed, System.aboutToHand, phase, tracks.retried b watchers phase]
  | enterBeyondClock _ phase | drop phase | lookAbandoned _ _ phase | lookEnded _ _ phase
  | invoke _ _ phase | settleOver _ _ phase | settleRetryable _ _ phase | decideAbandoned _ _ phase
  | decideOver _ _ phase | wakeIdle phase | leave phase =>
    refine Tracks.keep tracks (by simp) (by simp) rfl rfl rfl ?_ (by simp)
    simp [Event.handed, System.aboutToHand, phase, Effect.invoked?]

omit [Buffer β ι] in
/-- Entries of batches taken are never changed. -/
theorem prefix_taken (events more : List (Event β ι ω)) :
    (of events).taken <+: (of (events ++ more)).taken := by
  induction more using List.reverseRecOn with
  | nil => simp
  | append_singleton more e ih =>
    rw [← List.append_assoc, of_concat]
    refine ih.trans ?_
    unfold note
    split
    · exact List.prefix_rfl
    · exact List.prefix_rfl
    · split
      · exact List.prefix_append _ _
      · exact List.prefix_rfl

/-- The ledger of every run agrees with the buffers. -/
theorem of_run {capacity : Nat} {interval : Option Duration} {threshold : Option Nat}
    {maxRetries : Nat}
    (run : Run (.start capacity (.create interval threshold maxRetries)) events y) :
    Tracks events y := by
  induction run with
  | nil => exact tracks_start capacity interval threshold maxRetries
  | snoc _ stepped ih => exact tracks_step ih (System.step_sound stepped)

end Ledger

variable {first y z : System β ω} {events : List (Event β ι ω)} {label : Label β ι ω}
  {effects : List (Effect β ω)}

/-- What one step adds to the count of dropped items, in terms of its event. -/
theorem dropped_step (step : System.Step y label z effects) :
    z.shared.counters.dropped + (Event.accepted ⟨y, label, effects, z⟩).length =
      y.shared.counters.dropped + (if Event.isSend ⟨y, label, effects, z⟩ then 1 else 0) +
        ((Event.cleared ⟨y, label, effects, z⟩).map Buffer.size).sum := by
  cases step with
  | send x =>
    simp only [Event.accepted, Event.isSend, Event.cleared]
    rcases y.shared.send_cases y.capacity x with ⟨let_in, _⟩ | ⟨counted, _, more⟩
    · simp [let_in]
    · simp [counted, more]
  | abandon =>
    simp only [Event.accepted, Event.isSend, Event.cleared, Shared.abandon, Counters.dropped]
    simp
    omega
  | settleOver outcome => cases outcome <;> rfl
  | _ => simp [Event.accepted, Event.isSend, Event.cleared, Counters.dropped, Shared.close,
      Shared.taken, Shared.emptied, Outcome.counted, Shared.stop]

/-- Every send is let in or counted, and what an abandonment clears is counted too. -/
theorem sends_accounted (run : Run first events y) (fresh : first.shared.counters = {}) :
    y.shared.counters.dropped + (events.flatMap Event.accepted).length =
      events.countP Event.isSend + ((events.flatMap Event.cleared).map Buffer.size).sum := by
  induction run with
  | nil => simp [fresh, Counters.dropped]
  | @snoc events y z label effects _ stepped ih =>
    have one := dropped_step (System.step_sound stepped)
    simp only [List.flatMap_append, List.flatMap_cons, List.flatMap_nil, List.append_nil,
      List.length_append, List.countP_append, List.countP_cons, List.countP_nil, List.map_append,
      List.sum_append, Nat.zero_add]
    omega

end Telemetry.Channel
