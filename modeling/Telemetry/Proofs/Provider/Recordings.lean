import Telemetry.Proofs.Channel.Sends
import Telemetry.Proofs.Provider.Callers
import Telemetry.Proofs.Provider.Delta

/-! What becomes of each call of an instrument. Its measurement is not finite, it comes when the
provider is shutting down, the channel has no room for it or is closed, or it is folded into an
aggregation. Main result: `recordings_accounted`. -/
namespace Telemetry.Provider

namespace Event

/-- The measurement that an instrument takes. -/
def recorded (e : Event) : List Measurement :=
  match e.label with
  | .record m => [m]
  | _ => []

/-- The measurement that has no finite value. -/
def unfit (e : Event) : List Measurement := e.recorded.filter fun m => !isRecordable m.value

def fit (e : Event) : List Measurement := e.recorded.filter fun m => isRecordable m.value

/-- The measurement that comes when the provider takes none any longer. -/
def late (e : Event) : List Measurement := if e.before.state.isAccepting then [] else e.fit

/-- The measurement that may be sent. -/
def admitted (e : Event) : List Measurement := if e.before.state.isAccepting then e.fit else []

def sent (e : Event) : List Measurement := (Event.channel e).flatMap Channel.Event.sent

/-- The measurement that comes when the channel is closed. -/
def refused (e : Event) : List Measurement := (Event.channel e).flatMap Channel.Event.refused

/-- The measurement for which the channel has no room. -/
def overflowed (e : Event) : List Measurement := (Event.channel e).flatMap Channel.Event.overflowed

theorem recorded_perm (e : Event) : e.recorded.Perm (e.unfit ++ e.late ++ e.admitted) := by
  have both : (e.fit ++ e.unfit).Perm e.recorded := List.filter_append_perm _ _
  refine both.symm.trans (List.perm_append_comm.trans ?_)
  unfold late admitted
  cases e.before.state.isAccepting <;> simp

end Event

variable {y z : System} {label : Label} {effects : List Effect} {events : List Event}
  {settings : Settings} {built : Timestamp}

theorem recorded_run (events : List Event) :
    (events.flatMap Event.recorded).Perm (events.flatMap Event.unfit ++
      events.flatMap Event.late ++ events.flatMap Event.admitted) := by
  have each : (events.flatMap Event.recorded).Perm
      (events.flatMap fun e => e.unfit ++ e.late ++ e.admitted) :=
    List.Perm.flatMap (.refl _) fun e _ => e.recorded_perm
  refine each.trans ((List.flatMap_append_perm _ _ _).symm.trans ?_)
  exact (List.flatMap_append_perm _ _ _).symm.append_right _

theorem sent_mem_channelLabels {m : Measurement} (sends : .send m ∈ y.channelLabels label) :
    ∃ place, label = .send place := by
  cases label with
  | send place => exact ⟨place, rfl⟩
  | act place now =>
    cases there : y.callers[place]? with
    | none => simp [System.channelLabels, there] at sends
    | some caller => cases caller <;> simp [System.channelLabels, there, Caller.channelLabels] at sends
  | collect now order panics =>
    simp only [System.channelLabels] at sends
    unfold System.brokenEnd at sends
    grind
  | poll => simp [System.channelLabels] at sends
  | _ => simp [System.channelLabels] at sends

/-- Only an instrument sends. -/
theorem sent_eq_nil {e : Event} (other : ∀ place, e.label ≠ .send place) : Event.sent e = [] := by
  refine List.flatMap_eq_nil_iff.mpr fun c part => ?_
  unfold Channel.Event.sent
  split
  · next m sends =>
    obtain ⟨place, same⟩ := sent_mem_channelLabels (sends ▸ label_mem_of_mem_follow part)
    exact absurd same (other place)
  · rfl

/-- What one step adds to the measurements that may be sent, and takes away from them. -/
theorem admitted_step (step : System.Step y label z effects) :
    (y.admitted ++ Event.admitted ⟨y, label, effects, z⟩).Perm
      (Event.sent ⟨y, label, effects, z⟩ ++ z.admitted) := by
  cases step with
  | recordUnfit m unfit =>
    rw [sent_eq_nil (by simp)]
    simp [Event.admitted, Event.fit, Event.recorded, unfit]
  | recordLate m fit late =>
    rw [sent_eq_nil (by simp)]
    simp [Event.admitted, late]
  | recordAdmitted m fit accepting =>
    rw [sent_eq_nil (by simp)]
    simp [Event.admitted, Event.fit, Event.recorded, fit, accepting]
  | send place m found c done part =>
    have one : Event.sent ⟨y, .send place, done.flatMap waitOf,
        System.through { y with admitted := y.admitted.eraseIdx place } c done⟩ = [m] := by
      simp only [Event.sent, Event.channel, System.channelLabels, found, Option.map_some,
        Option.toList_some, follow_one part]
      rfl
    obtain ⟨inside, rfl⟩ := List.getElem?_eq_some_iff.mp found
    rw [one]
    simpa [Event.admitted, Event.fit, Event.recorded, System.through] using
      (List.getElem_cons_eraseIdx_perm inside).symm
  | act place now caller next w effects found acts =>
    have kept : w.admitted = y.admitted := by cases acts <;> rfl
    rw [sent_eq_nil (by simp)]
    simp [Event.admitted, Event.fit, Event.recorded, kept]
  | _ =>
    rw [sent_eq_nil (by simp)]
    simp [Event.admitted, Event.fit, Event.recorded, System.through, System.working, System.ended]

theorem admitted_run (run : Run (.build settings built) events y) :
    (events.flatMap Event.admitted).Perm (events.flatMap Event.sent ++ y.admitted) := by
  induction run with
  | nil => exact .nil
  | @snoc events y z label effects run stepped ih =>
    have step := admitted_step (System.step_sound stepped)
    rw [List.flatMap_append, List.flatMap_append, List.flatMap_singleton, List.flatMap_singleton]
    refine (ih.append_right _).trans ?_
    rw [List.append_assoc, List.append_assoc]
    exact step.append_left _

theorem rejected_ended (c : Counters) (result : Except ExportError Unit) :
    (c.ended result).rejected = c.rejected ∧ (c.ended result).afterShutdown = c.afterShutdown := by
  unfold Counters.ended
  split
  · exact ⟨rfl, rfl⟩
  · split <;> exact ⟨rfl, rfl⟩

/-- The counters of a step with delta temporality, where no series is ever dropped. -/
theorem rejected_step (delta : y.settings.temporality = .delta)
    (step : System.Step y label z effects) :
    z.counters.rejected = y.counters.rejected + (Event.unfit ⟨y, label, effects, z⟩).length ∧
      z.counters.afterShutdown =
        y.counters.afterShutdown + (Event.late ⟨y, label, effects, z⟩).length := by
  cases step with
  | recordUnfit m unfit => simp [Event.unfit, Event.late, Event.fit, Event.recorded, unfit]
  | recordLate m fit late => simp [Event.unfit, Event.late, Event.fit, Event.recorded, fit, late]
  | recordAdmitted m fit accepting => simp [Event.unfit, Event.late, Event.recorded, fit, accepting]
  | act place now caller next w effects found acts =>
    have kept : w.counters = y.counters := by cases acts <;> rfl
    simp [Event.unfit, Event.late, Event.fit, Event.recorded, kept]
  | collectBegun now data watchers a dropped worker phase prepared
  | collectFailed now data watchers a dropped worker c done phase prepared
  | collectBroken now panics data watchers a dropped worker c done phase prepared =>
    rw [Worker.prepare_delta delta] at prepared
    cases prepared
    simp [Event.unfit, Event.late, Event.fit, Event.recorded, System.through, System.working,
      System.ended, Counters.ended, ExportError.isCancelled]
  | poll reply a c done attempt part =>
    simpa [Event.unfit, Event.late, Event.fit, Event.recorded, System.through, System.ended] using
      rejected_ended y.counters (y.resultOf reply)
  | _ => simp [Event.unfit, Event.late, Event.fit, Event.recorded, System.through]

theorem rejected_run (delta : settings.temporality = .delta)
    (run : Run (.build settings built) events y) :
    y.counters.rejected = (events.flatMap Event.unfit).length ∧
      y.counters.afterShutdown = (events.flatMap Event.late).length := by
  induction run with
  | nil => exact ⟨rfl, rfl⟩
  | @snoc events y z label effects run stepped ih =>
    have same : y.settings = settings := settings_run run
    obtain ⟨rejected, late⟩ := rejected_step (same ▸ delta) (System.step_sound stepped)
    simp only [List.flatMap_append, List.flatMap_singleton, List.length_append]
    rw [rejected, late, ih.1, ih.2]
    exact ⟨rfl, rfl⟩

theorem sent_run (run : Run (.build settings built) events y) :
    (events.flatMap Event.sent).Perm (events.flatMap Event.accepted ++
      events.flatMap Event.refused ++ events.flatMap Event.overflowed) := by
  have sends := Channel.sent_run (channelRun run)
  simp only [List.flatMap_assoc] at sends
  exact sends

theorem overflow_run (run : Run (.build settings built) events y) :
    y.channel.shared.counters.overflow = (events.flatMap Event.overflowed).length := by
  have counted := Channel.overflow_run (channelRun run)
  rw [List.flatMap_assoc] at counted
  exact counted.trans (Nat.zero_add _)

/-- Once the provider takes no more measurements none may be sent. -/
theorem admitted_late {first : System} (run : Run first events y)
    (late : first.state.isAccepting = false) : events.flatMap Event.admitted = [] := by
  refine List.flatMap_eq_nil_iff.mpr fun e member => ?_
  rw [Event.admitted, (closed_run run late).1 e member, if_neg Bool.false_ne_true]

/-- The aggregations of a run: those handed to the worker or about to be, those that an abandonment
cleared, and the one that is being filled. -/
def aggregations (events : List Event) (y : System) : List Aggregation :=
  events.flatMap Event.handed ++ y.channel.aboutToHand ++ events.flatMap Event.cleared ++
    [y.channel.shared.filling]

/-- The measurements of each of the aggregations. -/
def foldedInto (events : List Event) : List (List Measurement) :=
  (ledger events).taken ++ (ledger events).cleared ++ [(ledger events).waiting]

theorem aggregations_eq (run : Run (.build settings built) events y) :
    aggregations events y = (foldedInto events).map Channel.fill := by
  rw [aggregations, handed_eq run, cleared_eq run, filling_eq run, foldedInto]
  simp

theorem flatten_foldedInto (run : Run (.build settings built) events y) :
    (foldedInto events).flatten = events.flatMap Event.accepted := by
  rw [accepted_eq run, foldedInto]
  simp

/-- Every attempt shows one of the aggregations. -/
theorem attempt_shows (delta : settings.temporality = .delta)
    (run : Run (.build settings built) events y) {a : Attempt}
    (attempted : a ∈ events.flatMap Event.attempts) :
    a.Settled settings ∧ ∃ ms ∈ foldedInto events, a.data.withWindow none = Channel.fill ms := by
  obtain ⟨e, member, attempted⟩ := List.mem_flatMap.mp attempted
  have window := Delivery.attempt_mem delta run member attempted
  have delivery := Delivery.of_run delta run
  refine ⟨delivery.settled a window, ?_⟩
  have shown : a.data.withWindow none ∈ (ledger events).taken.map Channel.fill := by
    rw [← handed_eq run, ← delivery.shown]
    exact List.mem_append_left _ (List.mem_map_of_mem window)
  obtain ⟨ms, taken, same⟩ := List.mem_map.mp shown
  refine ⟨ms, ?_, same.symm⟩
  simp [foldedInto, taken]

/-- In every run of a provider with delta temporality, whatever else happens between the calls of
the instruments, each call is counted once: as rejected where its value is not finite, as late, as
overflow, as refused by the closed channel, or as folded into one of the aggregations, unless it
has yet to send its measurement. Values that are not finite are rejected in every state. What is
folded, and so what any attempt shows, was recorded before the provider began to drain. -/
theorem recordings_accounted (delta : settings.temporality = .delta)
    (run : Run (.build settings built) events y) :
    aggregations events y = (foldedInto events).map Channel.fill ∧
    (events.flatMap Event.recorded).Perm (events.flatMap Event.unfit ++ events.flatMap Event.late ++
      events.flatMap Event.overflowed ++ events.flatMap Event.refused ++
      (foldedInto events).flatten ++ y.admitted) ∧
    y.counters.rejected = (events.flatMap Event.unfit).length ∧
    y.counters.afterShutdown = (events.flatMap Event.late).length ∧
    y.channel.shared.counters.overflow = (events.flatMap Event.overflowed).length ∧
    (events.flatMap Event.recorded).length = y.counters.rejected + y.counters.afterShutdown +
      y.channel.shared.counters.overflow + (events.flatMap Event.refused).length +
      (foldedInto events).flatten.length + y.admitted.length ∧
    (∀ before c after, events = before ++ c :: after → c.before.state.isAccepting = false →
      (foldedInto events).flatten.Subperm (before.flatMap Event.recorded)) ∧
    ∀ a ∈ events.flatMap Event.attempts, a.Settled settings ∧
      ∃ ms ∈ foldedInto events, a.data.withWindow none = Channel.fill ms := by
  have admitted := admitted_run run
  have sent := sent_run run
  rw [← flatten_foldedInto run] at sent
  have whole : (events.flatMap Event.recorded).Perm (events.flatMap Event.unfit ++
      events.flatMap Event.late ++ events.flatMap Event.overflowed ++
      events.flatMap Event.refused ++ (foldedInto events).flatten ++ y.admitted) := by
    refine (recorded_run events).trans ?_
    have swapped : (events.flatMap Event.sent).Perm (events.flatMap Event.overflowed ++
        (events.flatMap Event.refused ++ (foldedInto events).flatten)) :=
      sent.trans (List.perm_append_comm.trans (List.perm_append_comm.append_left _))
    simpa only [List.append_assoc] using
      (admitted.trans (swapped.append_right _)).append_left
        (events.flatMap Event.unfit ++ events.flatMap Event.late)
  obtain ⟨rejected, late⟩ := rejected_run delta run
  have overflow := overflow_run run
  refine ⟨aggregations_eq run, whole, rejected, late, overflow, ?_, ?_, ?_⟩
  · have length := whole.length_eq
    simp only [List.length_append] at length
    omega
  · rintro before c after rfl closed
    obtain ⟨_, here, rest⟩ := run.split
    have none := admitted_late (rest.cons here) closed
    rw [List.flatMap_append, none, List.append_nil] at admitted
    have folded : (foldedInto (before ++ c :: after)).flatten.Subperm
        ((before ++ c :: after).flatMap Event.sent) :=
      (List.sublist_append_left _ _).trans (List.sublist_append_left _ _) |>.subperm.trans
        sent.symm.subperm
    have through : (before.flatMap Event.admitted).Subperm (before.flatMap Event.recorded) :=
      (List.sublist_append_right _ _).subperm.trans (recorded_run before).symm.subperm
    exact folded.trans ((List.sublist_append_left _ _).subperm.trans
      (admitted.symm.subperm.trans through))
  · intro a attempted
    exact attempt_shows delta run attempted

def requested : Instrument := ⟨1, "requested", .counter, none, none, .ofName "test", none⟩

def size : Instrument := ⟨2, "size", .histogram, none, none, .ofName "test", none⟩

/-- A provider with room for one series. One measurement overflows, one finds the channel closed,
one comes once the shutdown has begun, and two are not finite. -/
def mixed : List Label :=
  [.call .start ⟨0⟩, .act 0 ⟨0⟩, .act 0 ⟨0⟩, .enter ⟨0⟩, .record (increment 1), .send 0,
    .record ⟨requested, .increment 2, .empty, ⟨.zero⟩⟩, .send 0,
    .record ⟨size, .observation .infinity, .empty, ⟨.zero⟩⟩, .record (increment 3), .dropSender, .send 0,
    .call (.shutDown (.ofSeconds 5)) ⟨0⟩, .act 1 ⟨0⟩, .act 1 ⟨0⟩, .record (increment 4),
    .record ⟨size, .observation .negativeInfinity, .empty, ⟨.zero⟩⟩, .look ⟨0⟩ ⟨0⟩,
    .collect ⟨⟨1⟩⟩ [] false, .poll (.ready (.ok ()))]

theorem recordings_accounted_mixed :
    let first : System := .build { cardinalityLimit := 1 } ⟨.zero⟩
    let events := follow System.step first mixed
    let y := endOf first events
    y.counters.rejected = 2 ∧ y.counters.afterShutdown = 1 ∧
      y.channel.shared.counters.overflow = 1 ∧
      (events.flatMap Event.recorded).length = y.counters.rejected + y.counters.afterShutdown +
        y.channel.shared.counters.overflow + (events.flatMap Event.refused).length +
        (foldedInto events).flatten.length + y.admitted.length := by
  intro first events y
  obtain ⟨_, _, rejected, late, overflow, accounted, _⟩ :=
    recordings_accounted rfl (run_follow System.step first mixed)
  refine ⟨rejected.trans ?_, late.trans ?_, overflow.trans ?_, accounted⟩
  · decide +kernel
  · decide +kernel
  · decide +kernel

end Telemetry.Provider
