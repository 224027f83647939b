import Telemetry.Proofs.Channel.Watchers

/-! The barrier of a flush. A watcher that waits for the items in a channel is not run before they
are dealt with: before the batch that they go into is over, or an abandonment or the receiver's exit
discards them. It is run too early in one case alone, where it is passed in to a closed channel that
still holds items and whose receiver has not begun another batch. Main result:
`flush_barrier_iff`. -/
namespace Telemetry.Channel

variable {β ι ω : Type}

/-- A step in which the processing of a batch ends, with all its retries. -/
def Event.finishes (e : Event β ι ω) : Bool :=
  e.before.receiver.isHolding && !e.after.receiver.isHolding

variable [Buffer β ι]
variable {first y z : System β ω} {events left more : List (Event β ι ω)} {label : Label β ι ω}
  {effects : List (Effect β ω)} {w : ω}

theorem takes_eq (step : System.Step y label z effects) :
    Event.takes ⟨y, label, effects, z⟩ = (!y.receiver.isHolding && z.receiver.isHolding) := by
  cases step with
  | send | onNextFlush | onStopped | close | abandon => simp [Event.takes]
  | enter now r phase entered =>
    simp [Event.takes, Receiver.isHolding, Receiver.phase_enter entered]
  | lookTook now later phase => simp [Event.takes, Receiver.isHolding, Receiver.taking, phase]
  | lookEarly _ _ phase | lookEmpty _ _ phase =>
    simp [Event.takes, Receiver.isHolding, Receiver.rest, phase]
  | decideRetry _ _ phase => simp [Event.takes, Receiver.isHolding, phase]
  | enterBeyondClock _ phase | drop phase | lookAbandoned _ _ phase | lookEnded _ _ phase
  | invoke _ _ phase | settleOver _ _ phase | settleRetryable _ _ phase | decideAbandoned _ _ phase
  | decideOver _ _ phase | wakeRetry _ _ phase | wakeIdle phase | leave phase =>
    simp [Event.takes, Receiver.isHolding, phase]

/-- Batches are processed one after the other. -/
theorem countP_takes (run : Run first events y) (idle : first.receiver.isHolding = false) :
    events.countP Event.takes =
      events.countP Event.finishes + if y.receiver.isHolding then 1 else 0 := by
  induction run with
  | nil => simp [idle]
  | @snoc events y z label effects _ stepped ih =>
    have here := takes_eq (System.step_sound stepped)
    rw [List.countP_append, List.countP_append, List.countP_singleton, List.countP_singleton, ih, here]
    by_cases before : y.receiver.isHolding <;> by_cases after : z.receiver.isHolding <;>
      simp [Event.finishes, before, after]

omit [Buffer β ι] in
theorem Ledger.length_taken (events : List (Event β ι ω)) :
    (Ledger.of events).taken.length = events.countP Event.takes := by
  induction events using List.reverseRecOn with
  | nil => rfl
  | append_singleton events e ih =>
    rw [Ledger.of_concat, List.countP_append, List.countP_singleton, ← ih]
    cases takes : e.takes with
    | false => simp [Ledger.taken_note takes]
    | true => simp [Ledger.taken_note_takes takes]

/-- The items that wait after `left` have been dealt with by the end of `left ++ more`. -/
inductive DealtWith (left more : List (Event β ι ω)) : Prop where
  /-- The next batch taken has them, and its processing has ended. -/
  | processed (batch : List ι)
      (taken : (Ledger.of (left ++ more)).taken[left.countP Event.takes]? = some batch)
      (inside : (Ledger.of left).waiting <+: batch)
      (ended : left.countP Event.takes < (left ++ more).countP Event.finishes)
  /-- The channel was abandoned before the next batch was taken. -/
  | abandoned (between : List (Event β ι ω)) (e : Event β ι ω) (rest : List (Event β ι ω))
      (whole : more = between ++ e :: rest) (abandons : e.isAbandon = true)
      (untaken : ∀ d ∈ between, d.takes = false)
  /-- The receiver has exited. -/
  | exited (e : Event β ι ω) (member : e ∈ left ++ more) (leaves : e.label = .leave)

omit [Buffer β ι] in
theorem DealtWith.append (dealt : DealtWith left more) (rest : List (Event β ι ω)) :
    DealtWith left (more ++ rest) := by
  cases dealt with
  | processed batch taken inside ended =>
    have grown := Ledger.prefix_taken (left ++ more) rest
    rw [List.append_assoc] at grown
    obtain ⟨within, rfl⟩ := List.getElem?_eq_some_iff.mp taken
    refine .processed _ (List.prefix_iff_getElem?.mp grown _ within) inside ?_
    rw [← List.append_assoc, List.countP_append]
    exact Nat.lt_add_right _ ended
  | abandoned between e tail whole abandons untaken =>
    exact .abandoned between e (tail ++ rest) (by simp [whole]) abandons untaken
  | exited e member leaves =>
    exact .exited e (by simpa using (List.mem_append.mp member).imp_right .inl) leaves

/-- A watcher that waits with items stays with them, or is taken with them, unless the channel is
abandoned or the receiver exits. -/
theorem waiting_step (step : System.Step y label z effects) (here : w ∈ y.shared.waiting)
    (some : 0 < y.shared.queueLength) (kept : label ≠ .abandon) (stays : label ≠ .leave) :
    (Event.takes ⟨y, label, effects, z⟩ = true ∧ w ∈ z.receiver.watchers) ∨
      (Event.takes ⟨y, label, effects, z⟩ = false ∧ w ∈ z.shared.waiting) := by
  cases step with
  | abandon => exact absurd rfl kept
  | leave => exact absurd rfl stays
  | lookTook => exact .inl ⟨rfl, here⟩
  | lookEnded _ _ _ _ _ none | lookEmpty _ _ _ _ _ none => exact absurd none (Nat.ne_of_gt some)
  | send | onStopped => exact .inr ⟨rfl, by simpa using here⟩
  | onNextFlush v =>
    refine .inr ⟨rfl, ?_⟩
    rcases y.shared.onNextFlush_cases v with ⟨_, waiting⟩ | ⟨_, waiting⟩
    · exact waiting ▸ here
    · exact waiting ▸ List.mem_append_left _ here
  | _ => exact .inr ⟨by simp [Event.takes, Receiver.rest], here⟩

theorem isHolding_of_mem {r : Receiver β ω} (here : w ∈ r.watchers) : r.isHolding = true := by
  unfold Receiver.watchers at here
  unfold Receiver.isHolding
  split at here <;> simp_all

theorem watchers_step (step : System.Step y label z effects) (here : w ∈ y.receiver.watchers) :
    w ∈ z.receiver.watchers ∨ Event.finishes ⟨y, label, effects, z⟩ = true := by
  cases step with
  | send | onNextFlush | onStopped | close | abandon => exact .inl here
  | invoke _ _ phase | settleRetryable _ _ phase | decideRetry _ _ phase | wakeRetry _ _ phase =>
    exact .inl (by simpa [Receiver.watchers, Receiver.retried, phase] using here)
  | settleOver _ _ phase | decideAbandoned _ _ phase | decideOver _ _ phase =>
    exact .inr (by simp [Event.finishes, Receiver.isHolding, phase])
  | enter _ _ phase | enterBeyondClock _ phase | drop phase | lookAbandoned _ _ phase
  | lookEnded _ _ phase | lookEarly _ _ phase | lookEmpty _ _ phase | lookTook _ _ phase
  | wakeIdle phase | leave phase => simp [Receiver.watchers, phase] at here

omit [Buffer β ι] in
theorem Ledger.waiting_note (l : Ledger ι) {e : Event β ι ω} (untaken : e.takes = false)
    (kept : e.label ≠ .abandon) : l.waiting <+: (l.note e).waiting := by
  unfold note
  split
  · exact List.prefix_append _ _
  · next same => exact absurd same kept
  · simp [untaken]

/-- Where a watcher is that was passed in after `left`. -/
inductive Whereabouts (w : ω) (left more : List (Event β ι ω)) (y : System β ω) : Prop where
  | waiting (here : w ∈ y.shared.waiting)
      (inside : (Ledger.of left).waiting <+: (Ledger.of (left ++ more)).waiting)
      (untaken : ∀ d ∈ more, d.takes = false)
  | taken (here : w ∈ y.receiver.watchers) (batch : List ι)
      (taken : (Ledger.of (left ++ more)).taken[left.countP Event.takes]? = some batch)
      (inside : (Ledger.of left).waiting <+: batch)
      (last : (left ++ more).countP Event.takes = left.countP Event.takes + 1)
  | dealt (dealt : DealtWith left more)

theorem size_fill_le [LawfulBuffer β ι] {l m : List ι} (part : l <+: m) :
    Buffer.size (fill l : β) ≤ Buffer.size (fill m : β) := by
  obtain ⟨rest, rfl⟩ := part
  induction rest using List.reverseRecOn with
  | nil => simp
  | append_singleton rest x ih =>
    rw [← List.append_assoc, fill_concat, LawfulBuffer.size_push]
    exact Nat.le_add_right_of_le ih

namespace Whereabouts

variable (waits : 0 < Buffer.size (fill (Ledger.of left).waiting : β))
  (tracks : Ledger.Tracks (left ++ more) y) (step : System.Step y label z effects)

include waits tracks step in
theorem of_waiting [LawfulBuffer β ι] (here : w ∈ y.shared.waiting)
    (inside : (Ledger.of left).waiting <+: (Ledger.of (left ++ more)).waiting)
    (untaken : ∀ d ∈ more, d.takes = false) :
    Whereabouts w left (more ++ [⟨y, label, effects, z⟩]) z := by
  have some : 0 < y.shared.queueLength := by
    rw [Shared.queueLength, tracks.filling]
    exact Nat.lt_of_lt_of_le waits (size_fill_le inside)
  have noted : Ledger.of (left ++ (more ++ [⟨y, label, effects, z⟩])) =
      (Ledger.of (left ++ more)).note ⟨y, label, effects, z⟩ := by
    rw [← List.append_assoc, Ledger.of_concat]
  by_cases gone : label = .abandon
  · subst gone
    exact .dealt (.abandoned more _ [] rfl rfl untaken)
  by_cases leaves : label = .leave
  · exact .dealt (.exited ⟨y, label, effects, z⟩ (by simp) leaves)
  rcases waiting_step step here some gone leaves with ⟨takes, held⟩ | ⟨none, stays⟩
  · -- This look takes the watcher with all that waits, and it is the first one to take anything.
    have earlier : more.countP Event.takes = 0 := by simpa [List.countP_eq_zero] using untaken
    have count : (left ++ more).countP Event.takes = left.countP Event.takes := by
      rw [List.countP_append, earlier, Nat.add_zero]
    refine .taken held _ ?_ inside ?_
    · rw [noted, Ledger.taken_note_takes takes, ← count, ← Ledger.length_taken,
        List.getElem?_concat_length]
    · rw [← List.append_assoc, List.countP_append, count, List.countP_singleton, takes, if_pos rfl]
  · refine .waiting stays (inside.trans ?_) fun d member => ?_
    · rw [noted]
      exact Ledger.waiting_note _ none gone
    · rcases List.mem_append.mp member with before | here
      · exact untaken d before
      · exact List.mem_singleton.mp here ▸ none

include step in
theorem of_taken (here : w ∈ y.receiver.watchers) {batch : List ι}
    (taken : (Ledger.of (left ++ more)).taken[left.countP Event.takes]? = some batch)
    (inside : (Ledger.of left).waiting <+: batch)
    (last : (left ++ more).countP Event.takes = left.countP Event.takes + 1)
    (orderly : (left ++ more).countP Event.takes = (left ++ more).countP Event.finishes + 1) :
    Whereabouts w left (more ++ [⟨y, label, effects, z⟩]) z := by
  have untaken : Event.takes ⟨y, label, effects, z⟩ = false := by
    rw [takes_eq step, isHolding_of_mem here]
    rfl
  have still : (Ledger.of (left ++ (more ++ [⟨y, label, effects, z⟩]))).taken =
      (Ledger.of (left ++ more)).taken := by
    rw [← List.append_assoc, Ledger.of_concat, Ledger.taken_note untaken]
  -- The batch in hand is the last one taken, so all those taken by then are over once it is.
  rcases watchers_step step here with held | finishes
  · refine .taken held batch (still ▸ taken) inside ?_
    rw [← List.append_assoc, List.countP_append, last, List.countP_singleton, untaken]
    rfl
  · refine .dealt (.processed batch (still ▸ taken) inside ?_)
    rw [← List.append_assoc, List.countP_append, List.countP_singleton, finishes, if_pos rfl]
    omega

/-- Wherever a watcher is, the rest of a run leaves it there, or has it taken, or deals with the
items. -/
theorem of_run [LawfulBuffer β ι] {capacity : Nat} {interval : Option Duration}
    {threshold : Option Nat} {maxRetries : Nat} {begun : List (Event β ι ω)}
    (upTo : Run (.start capacity (.create interval threshold maxRetries)) (left ++ begun) first)
    (there : Whereabouts w left begun first)
    (waits : 0 < Buffer.size (fill (Ledger.of left).waiting : β)) (run : Run first events y) :
    Whereabouts w left (begun ++ events) y := by
  induction run with
  | nil => simpa using there
  | @snoc events y z label effects run stepped ih =>
    have step := System.step_sound stepped
    have whole := upTo.trans run
    rw [List.append_assoc] at whole
    rw [← List.append_assoc]
    cases ih with
    | waiting here inside untaken =>
      exact of_waiting waits (Ledger.of_run whole) step here inside untaken
    | taken here batch taken inside last =>
      have orderly := countP_takes whole rfl
      rw [isHolding_of_mem here, if_pos rfl] at orderly
      exact of_taken step here taken inside last orderly
    | dealt dealt => exact .dealt (dealt.append _)

end Whereabouts

theorem not_parked_of_notified {e : Event β ι ω} (run : Run first (left ++ e :: more) y)
    (fresh : first.parked = []) (passed : e.registered = [w])
    (once : ∀ d ∈ left ++ more, w ∉ Event.registered d)
    (ran : w ∈ (e :: more).flatMap Event.notified) : w ∉ y.parked := by
  classical
  intro parked
  have elsewhere : ∀ {part : List (Event β ι ω)}, part ⊆ left ++ more →
      (part.flatMap Event.registered).count w = 0 := fun {part} inside => by
    refine List.count_eq_zero_of_not_mem fun member => ?_
    obtain ⟨d, here, registered⟩ := List.mem_flatMap.mp member
    exact once d (inside here) registered
  -- It would be there twice, though it was passed in once.
  have all := (parked_run run).count_eq w
  have now := List.count_pos_iff.mpr ran
  have later := List.count_pos_iff.mpr parked
  rw [fresh, List.nil_append, List.flatMap_append, List.flatMap_append,
    List.flatMap_cons (f := Event.registered), passed] at all
  simp only [List.count_append, List.count_singleton_self,
    elsewhere (List.subset_append_left _ _), elsewhere (List.subset_append_right _ _)] at all
  omega

/-- Whether a channel that still holds items runs a watcher of them at once: it is closed, and its
receiver has neither begun a batch since it last found nothing to do, nor exited. -/
def Shared.isUnguarded (s : Shared β ω) : Bool :=
  0 < s.queueLength && !s.isOpen && !s.isInBatch && !s.isStopped

theorem onNextFlush_guarded {s : Shared β ω} (some : 0 < s.queueLength)
    (guarded : s.isUnguarded = false) :
    s.isStopped = true ∨ (s.onNextFlush w).1.waiting = s.waiting ++ [w] := by
  have full : (Buffer.size s.filling == 0) = false := beq_false_of_ne (Nat.ne_of_gt some)
  unfold Shared.onNextFlush
  split
  · next ran =>
    simp only [full, Bool.false_or, Bool.and_eq_true, Bool.not_eq_true'] at ran
    exact .inl (by simpa [Shared.isUnguarded, some, ran] using guarded)
  · exact .inr rfl

theorem onNextFlush_unguarded {s : Shared β ω} (unguarded : s.isUnguarded = true) :
    (s.onNextFlush w).2 = [w] ∧ 0 < s.queueLength ∧ s.isStopped = false := by
  simp only [Shared.isUnguarded, Bool.and_eq_true, decide_eq_true_eq, Bool.not_eq_true'] at unguarded
  obtain ⟨⟨⟨some, closed⟩, apart⟩, running⟩ := unguarded
  exact ⟨by simp [Shared.onNextFlush, closed, apart], some, running⟩

/-- What waits as a watcher is passed in has not been dealt with by then, unless the receiver has
exited. -/
theorem not_dealtWith {e : Event β ι ω} (run : Run first (left ++ [e]) y)
    (idle : first.receiver.isHolding = false) (passed : e.label = .onNextFlush w)
    (inside : e.before.shared.isStopped = false) : ¬ DealtWith left [e] := by
  have upTo : Run first left e.before := run.split.1
  have none : Event.takes e = false := by simp [Event.takes, passed]
  intro dealt
  cases dealt with
  | processed batch taken within ended =>
    have orderly := countP_takes run idle
    rw [List.countP_append, List.countP_singleton, none] at orderly
    simp only [Bool.false_eq_true, if_false] at orderly
    omega
  | abandoned between d rest whole abandons untaken =>
    have same : d ∈ [e] := by simp [whole]
    rw [List.mem_singleton.mp same] at abandons
    simp [Event.isAbandon, passed] at abandons
  | exited d member leaves =>
    rcases List.mem_append.mp member with before | here
    · have stopped := (isStopped_run upTo).mpr (.inr ⟨d, before, leaves⟩)
      exact Bool.false_ne_true (inside.symm.trans stopped)
    · rw [List.mem_singleton.mp here, passed] at leaves
      cases leaves

theorem onNextFlush_step (step : System.Step y (.onNextFlush w : Label β ι ω) z effects) :
    z.shared = (y.shared.onNextFlush w).1 ∧
      effects.flatMap Effect.watchers = (y.shared.onNextFlush w).2 := by
  cases step with
  | onNextFlush => exact ⟨rfl, flatMap_watchers_ran _⟩

/-- In every run, and at every place where a watcher is passed in that waits for the items in the
channel, it is not run before they are dealt with, exactly where the channel guards them. -/
theorem flush_barrier_iff [LawfulBuffer β ι] {capacity : Nat} {interval : Option Duration}
    {threshold : Option Nat} {maxRetries : Nat} {right : List (Event β ι ω)} {e : Event β ι ω}
    (run : Run (.start capacity (.create interval threshold maxRetries)) (left ++ e :: right) y)
    (passed : e.label = .onNextFlush w) (once : ∀ d ∈ left ++ right, w ∉ Event.registered d) :
    (∀ more, more <+: right → w ∈ (e :: more).flatMap Event.notified →
      0 < e.before.shared.queueLength → DealtWith left (e :: more)) ↔
    e.before.shared.isUnguarded = false := by
  obtain ⟨upTo, here, rest⟩ := run.split
  obtain ⟨shared, ran⟩ := onNextFlush_step (passed ▸ System.step_sound here)
  have whole := Run.snoc upTo here
  constructor
  · intro barrier
    by_contra unguarded
    obtain ⟨now, some, inside⟩ := onNextFlush_unguarded (w := w) (Bool.not_eq_false _ ▸ unguarded)
    refine not_dealtWith whole rfl passed inside (barrier [] List.nil_prefix ?_ some)
    simp [Event.notified, ran, now]
  · rintro guarded more ⟨tail, rfl⟩ notified some
    rcases onNextFlush_guarded (w := w) some guarded with stopped | parked
    · obtain ⟨d, member, leaves⟩ :=
        ((isStopped_run upTo).mp stopped).resolve_left Bool.false_ne_true
      exact .exited d (List.mem_append_left _ member) leaves
    · -- The watcher joins the items, and as it is run it is no longer parked, so they are dealt with.
      obtain ⟨later, next, _⟩ := rest.parts
      have quiet : Event.takes e = false := by simp [Event.takes, passed]
      have tracks := Ledger.of_run upTo
      have there : Whereabouts w left [e] e.after := by
        refine .waiting (by simp [shared, parked]) ?_ (by simpa using quiet)
        rw [Ledger.of_concat]
        exact Ledger.waiting_note _ quiet (by simp [passed])
      have waits : 0 < Buffer.size (fill (Ledger.of left).waiting : β) := by
        rwa [← tracks.filling]
      have gone : w ∉ later.parked := by
        refine not_parked_of_notified (upTo.trans (next.cons here)) rfl ?_ (fun d member => ?_)
          notified
        · simp [Event.registered, Event.flushWatcher, Event.stopWatcher, passed]
        · exact once d (by simp only [List.mem_append] at member ⊢; tauto)
      cases there.of_run whole waits next with
      | waiting still => simp [System.parked, still] at gone
      | taken still => simp [System.parked, still] at gone
      | dealt dealt => exact dealt

/-- An item and its watcher come in while a batch is at work, which is then tried again. -/
def guarded : List (Label (List Nat) Nat Nat) :=
  [.enter ⟨0⟩, .send 1, .look ⟨0⟩ ⟨0⟩, .invoke, .send 2, .onNextFlush 0, .settle (.failed [1]),
    .decide, .wake, .invoke, .settle .processed, .look ⟨0⟩ ⟨0⟩, .invoke, .settle .processed]

theorem flush_barrier_iff_guarded :
    let events := follow System.step (.start 2 (.create none none 10)) guarded
    ∃ left e right, events = left ++ e :: right ∧ e.label = .onNextFlush 0 ∧
      (Ledger.of left).waiting = [2] ∧ 0 ∈ (e :: right).flatMap Event.notified ∧
      DealtWith left (e :: right) := by
  intro events
  have split : events = events.take 5 ++ events.get ⟨5, by decide⟩ :: events.drop 6 := by simp
  have run := run_follow System.step (.start 2 (.create none none 10)) guarded
  rw [show follow System.step _ guarded = _ from split] at run
  have notified : 0 ∈ (events.get ⟨5, by decide⟩ :: events.drop 6).flatMap Event.notified := by decide
  refine ⟨_, _, _, split, rfl, rfl, notified, ?_⟩
  exact (flush_barrier_iff run rfl (by decide)).mpr rfl _ List.prefix_rfl notified (by decide)

/-- The channel is closed before its receiver begins, and a watcher is passed in. -/
def unguarded : List (Label (List Nat) Nat Nat) :=
  [.send 1, .close, .onNextFlush 0, .enter ⟨0⟩, .look ⟨0⟩ ⟨0⟩, .invoke, .settle .processed]

/-- A watcher is run while the item it waits for is in the channel still. -/
theorem flush_unguarded :
    let events := follow System.step (.start 2 (.create none none 10)) unguarded
    ∃ left e right, events = left ++ e :: right ∧ e.label = .onNextFlush 0 ∧
      (Ledger.of left).waiting = [1] ∧ 0 ∈ e.notified ∧ ¬ DealtWith left [e] := by
  intro events
  have split : events = events.take 2 ++ events.get ⟨2, by decide⟩ :: events.drop 3 := by simp
  have run := run_follow System.step (.start 2 (.create none none 10)) unguarded
  rw [show follow System.step _ unguarded = _ from split] at run
  obtain ⟨upTo, here, _⟩ := run.split
  exact ⟨_, _, _, split, rfl, rfl, by decide, not_dealtWith (.snoc upTo here) rfl rfl rfl⟩

end Telemetry.Channel
