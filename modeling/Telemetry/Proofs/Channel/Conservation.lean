import Telemetry.Proofs.Channel.Ledger

/-! Conservation and order of the items of a channel. Every item that is let in is handed to the
callback once, in the order of the sends, unless it still waits or an abandonment cleared it. -/
namespace Telemetry.Channel

variable {β ι ω : Type} [Buffer β ι]
variable {first y z : System β ω} {events : List (Event β ι ω)} {label : Label β ι ω}
  {effects : List (Effect β ω)}

/-- A channel whose receiver has left its loop with nothing left to take. -/
structure System.Drained (y : System β ω) : Prop where
  empty : y.shared.queueLength = 0
  closed : y.shared.isOpen = false
  out : y.receiver.phase = .leaving ∨ y.receiver.phase = .exited

theorem drained_of_endsLoop (step : System.Step y label z effects)
    (ends : Event.endsLoop ⟨y, label, effects, z⟩ = true) (kept : y.shared.isAbandoned = false) :
    z.Drained := by
  cases step with
  | lookAbandoned _ _ _ abandoned => exact absurd (kept.symm.trans abandoned) Bool.false_ne_true
  | lookEnded _ _ phase kept due none closed => exact ⟨none, closed, .inl rfl⟩
  | _ => simp [Event.endsLoop, Receiver.rest, Receiver.taking] at ends

theorem closed_send {capacity : Nat} {s : Shared β ω} {x : ι} (closed : s.isOpen = false) :
    s.send capacity x =
      { s with counters := { s.counters with discarded := s.counters.discarded + 1 } } := by
  simp [Shared.send, closed]

theorem drained_step [LawfulBuffer β ι] (drained : y.Drained)
    (step : System.Step y label z effects) : z.Drained := by
  obtain ⟨empty, closed, out⟩ := drained
  cases step with
  | send x => rw [closed_send closed]; exact ⟨empty, closed, out⟩
  | onNextFlush | onStopped =>
    exact ⟨by simpa [Shared.queueLength] using empty, by simpa using closed, out⟩
  | close => exact ⟨empty, rfl, out⟩
  | abandon => exact ⟨LawfulBuffer.size_empty, rfl, out⟩
  | leave => exact ⟨empty, rfl, .inr rfl⟩
  | _ => simp_all

/-- Once the loop has ended by itself nothing waits any more, whatever the senders do. -/
theorem drained_of_mem [LawfulBuffer β ι] {e : Event β ι ω} (run : Run first events y)
    (member : e ∈ events) (ends : Event.endsLoop e = true) (kept : e.before.shared.isAbandoned = false) :
    y.Drained := by
  obtain ⟨left, right, rfl⟩ := List.append_of_mem member
  obtain ⟨_, here, rest⟩ := run.split
  have start := drained_of_endsLoop (System.step_sound here) ends kept
  clear run member here
  induction rest with
  | nil => exact start
  | snoc _ stepped ih => exact drained_step ih (System.step_sound stepped)

/-- Where the loop ended by itself no abandonment ever clears an item. -/
theorem cleared_empty_of_mem [LawfulBuffer β ι] {capacity : Nat} {interval : Option Duration}
    {threshold : Option Nat} {maxRetries : Nat} {e : Event β ι ω}
    (run : Run (.start capacity (.create interval threshold maxRetries)) events y)
    (member : e ∈ events) (ends : Event.endsLoop e = true)
    (kept : e.before.shared.isAbandoned = false) :
    ∀ b ∈ events.flatMap Event.cleared, Buffer.size b = 0 := by
  obtain ⟨left, right, rfl⟩ := List.append_of_mem member
  obtain ⟨before, here, rest⟩ := run.split
  have tracks := Ledger.of_run before
  have none : left.flatMap Event.cleared = [] := by
    rw [tracks.cleared, tracks.kept kept, List.map_nil]
  have look : Event.cleared e = [] := by
    unfold Event.endsLoop at ends
    unfold Event.cleared
    split at ends
    · next label _ => rw [label]
    · cases ends
  rw [List.flatMap_append, List.flatMap_cons, none, look, List.nil_append, List.nil_append]
  intro b hb
  obtain ⟨d, later, cleared⟩ := List.mem_flatMap.mp hb
  obtain ⟨first, last, rfl⟩ := List.append_of_mem later
  have whole : left ++ e :: (first ++ d :: last) = (left ++ e :: first) ++ d :: last := by simp
  rw [whole] at run
  obtain ⟨earlier, _, _⟩ := run.split
  have drained := drained_of_mem earlier (by simp) ends kept
  unfold Event.cleared at cleared
  split at cleared
  · rw [List.mem_singleton.mp cleared]
    exact drained.empty
  · cases cleared

theorem isAbandoned_step (step : System.Step y label z effects) :
    z.shared.isAbandoned = true ↔ y.shared.isAbandoned = true ∨ label = .abandon := by
  cases step with
  | abandon => simp [Shared.abandon]
  | _ => simp [Shared.close, Shared.taken, Shared.emptied, Shared.stop]

theorem isAbandoned_run (run : Run first events y) : y.shared.isAbandoned = true ↔
    first.shared.isAbandoned = true ∨ ∃ e ∈ events, e.label = .abandon :=
  run.flag_iff (fun s => s.shared.isAbandoned) (fun label => label = .abandon)
    fun stepped => isAbandoned_step (System.step_sound stepped)

theorem not_abandoned (run : Run first events y) (fresh : first.shared.isAbandoned = false)
    (never : ∀ e ∈ events, Event.isAbandon e = false) : y.shared.isAbandoned = false := by
  refine Bool.eq_false_iff.mpr fun gone => ?_
  rcases (isAbandoned_run run).mp gone with already | ⟨e, member, abandons⟩
  · exact Bool.false_ne_true (fresh.symm.trans already)
  · simpa [Event.isAbandon, abandons] using never e member

/-- In every run of a channel of lists each send is let in, or counted as overflow or as
discarded, and the items let in are, in the order of their sends, those handed to the callback
or about to be, those that an abandonment cleared, and those that still wait. A receiver that
returns without an abandonment has handed all of them over. -/
theorem items_conserved {ι ω : Type} {capacity : Nat} {interval : Option Duration}
    {threshold : Option Nat} {maxRetries : Nat} {events : List (Event (List ι) ι ω)}
    {y : System (List ι) ω}
    (run : Run (.start capacity (.create interval threshold maxRetries)) events y) :
    events.countP Event.isSend = y.shared.counters.overflow + y.shared.counters.discarded +
      y.shared.queueLength + ((events.flatMap Event.handed ++ y.aboutToHand).map List.length).sum ∧
    events.flatMap Event.accepted = (events.flatMap Event.handed ++ y.aboutToHand).flatten ++
      (events.flatMap Event.cleared).flatten ++ y.shared.filling ∧
    ((∀ e ∈ events, e.isAbandon = false) → (∃ e ∈ events, e.endsLoop = true) →
      y.shared.filling = [] ∧
      events.flatMap Event.accepted = (events.flatMap Event.handed).flatten) := by
  have tracks := Ledger.of_run run
  have handed : (events.flatMap Event.handed ++ y.aboutToHand) = (Ledger.of events).taken := by
    rw [tracks.handed, map_fill_list]
  have cleared : events.flatMap Event.cleared = (Ledger.of events).cleared := by
    rw [tracks.cleared, map_fill_list]
  have filling : y.shared.filling = (Ledger.of events).waiting := by
    rw [tracks.filling, fill_list]
  have order : events.flatMap Event.accepted =
      (events.flatMap Event.handed ++ y.aboutToHand).flatten ++
        (events.flatMap Event.cleared).flatten ++ y.shared.filling := by
    rw [handed, cleared, filling]
    exact tracks.accepted
  refine ⟨?_, order, ?_⟩
  · have counted := sends_accounted run rfl
    have lengths := congrArg List.length order
    have size : (Buffer.size : List ι → Nat) = List.length := rfl
    simp only [List.length_append, List.length_flatten] at lengths
    simp only [Counters.dropped, size] at counted
    simp only [Shared.queueLength, size]
    omega
  · rintro never ⟨e, member, ends⟩
    obtain ⟨left, right, rfl⟩ := List.append_of_mem member
    obtain ⟨before, _, _⟩ := run.split
    have kept := not_abandoned before rfl fun e earlier => never e (by simp [earlier])
    have drained := drained_of_mem run member ends kept
    have empty : y.shared.filling = [] := List.eq_nil_of_length_eq_zero drained.empty
    have about : y.aboutToHand = [] := by
      rcases drained.out with phase | phase <;> simp [System.aboutToHand, phase]
    have uncleared := tracks.kept (not_abandoned run rfl never)
    refine ⟨empty, ?_⟩
    rw [order, cleared, uncleared, about, empty]
    simp

/-- A channel of two entries: one item overflows, a batch is tried twice, one item comes too
late. -/
def overflowing : List (Label (List Nat) Nat Nat) :=
  [.enter ⟨0⟩, .send 1, .send 2, .send 3, .look ⟨0⟩ ⟨0⟩, .send 4, .invoke, .settle (.failed [2]),
    .decide, .wake, .invoke, .settle .processed, .close, .send 5, .look ⟨0⟩ ⟨0⟩, .invoke,
    .settle .panicked, .look ⟨0⟩ ⟨0⟩, .leave]

theorem items_conserved_overflowing :
    let first : System (List Nat) Nat := .start 2 (.create none none 10)
    let events := follow System.step first overflowing
    (events.flatMap Event.handed).flatten = [1, 2, 4] ∧
      events.flatMap Event.accepted = (events.flatMap Event.handed).flatten := by
  refine ⟨by decide, ?_⟩
  refine ((items_conserved (run_follow _ _ _)).2.2 ?_ ?_).2
  · decide
  · decide

end Telemetry.Channel
