import Telemetry.Proofs.Channel.Watchers
import Telemetry.Proofs.Provider.Lifecycle

/-! How the caller that shuts a provider down waits for the worker. Its wait ends in one step, and
what the caller answers is settled there: it has seen the worker gone, or its deadline is over.
Main results: `notified_iff_exited`, `exists_endsWait` and `timedOut_iff`. -/
namespace Telemetry.Provider

namespace Caller

/-- Whether the caller saw the worker gone, once its wait for that is over. -/
def sawExit? : Caller → Option Bool
  | announcingStop _ inTime => some inTime
  | readingFailure | shutDown .flushed | shutDown (.failed _) => some true
  | cancellingExport _ | abandoningChannel _ | givingNotice _ | shutDown .timedOut => some false
  | _ => none

/-- Whether the caller is one that drains the provider with the given deadline, as far as it shows. -/
def Serves (d : Deadline) : Caller → Prop
  | announcingDrain e | watchingWorker e | closingChannel e | awaitingWorker e _ | announcingStop e _
  | cancellingExport e | abandoningChannel e | givingNotice e => e = d
  | readingFailure | panicked => True
  | shutDown outcome => outcome ≠ .alreadyShutdown
  | _ => False

/-- Whether the caller has had its watcher set for the exit of the worker, and waits. -/
def isWatching : Caller → Bool
  | closingChannel _ | awaitingWorker _ _ => true
  | _ => false

end Caller

/-- The caller at the place, who is waiting for the worker, waits no longer. -/
structure EndsWait (place : Nat) (d : Deadline) (now : Instant) (e : Event) : Prop where
  waiting : ∃ limit, e.before.callers[place]? = some (.awaitingWorker d limit)
  own : e.label = .act place now ∨ e.label = .expire place now

/-- The caller at the place takes the step after which `P` holds of it. -/
def Crosses (P : Caller → Prop) (place : Nat) (e : Event) : Prop :=
  ∃ caller next, e.before.callers[place]? = some caller ∧ ¬P caller ∧ P next ∧
    ((∃ now, e.label = .expire place now ∧ e.before.expireOn place now caller = some next) ∨
      ∃ now w, e.label = .act place now ∧
        System.Acts e.before place now caller w next e.effects ∧
        e.after = { w with callers := w.callers.set place next })

variable {first y z : System} {label : Label} {effects : List Effect} {events : List Event}
  {place : Nat} {now : Instant} {caller next : Caller} {d : Deadline} {limit : Instant}
  {settings : Settings} {built : Timestamp} {P : Caller → Prop}

/-- What a caller keeps in its own steps, it keeps in a run. -/
theorem caller_keeps
    (acts : ∀ {y z : System} {now : Instant} {caller next : Caller} {effects : List Effect},
      System.Acts y place now caller z next effects → P caller → P next)
    (expires : ∀ {y : System} {now : Instant} {caller next : Caller},
      y.expireOn place now caller = some next → P caller → P next)
    (run : Run first events y) (here : first.callers[place]? = some caller) (holds : P caller) :
    (∀ e ∈ events, ∃ c, e.before.callers[place]? = some c ∧ P c) ∧
      ∃ c, y.callers[place]? = some c ∧ P c := by
  refine run.keeps (fun s => ∃ c, s.callers[place]? = some c ∧ P c) ⟨caller, here, holds⟩ ?_
  rintro y label z effects stepped ⟨c, here, holds⟩
  obtain ⟨next, there, ⟨rfl, _⟩ | ⟨now, _, expiry, _⟩ | ⟨now, w, _, acted, _⟩⟩ :=
    (System.step_sound stepped).advances here
  · exact ⟨next, there, holds⟩
  · exact ⟨next, there, expires expiry holds⟩
  · exact ⟨next, there, acts acted holds⟩

/-- What holds of a caller, and did not at first, came to hold in a step of its own. -/
theorem exists_crossing (fresh : ∀ now call, ¬P (.ofCall now call)) (run : Run first events y)
    (start : ∀ c, first.callers[place]? = some c → ¬P c)
    (here : y.callers[place]? = some caller) (holds : P caller) :
    ∃ left e right, events = left ++ e :: right ∧ Crosses P place e := by
  induction run generalizing caller with
  | nil => exact absurd holds (start caller here)
  | @snoc events y z label effects run stepped ih =>
    have step := System.step_sound stepped
    by_cases inside : place < y.callers.length
    · have before : y.callers[place]? = some y.callers[place] := List.getElem?_eq_getElem inside
      by_cases already : P y.callers[place]
      · obtain ⟨left, e, right, rfl, crosses⟩ := ih before already
        exact ⟨left, e, right ++ [⟨y, label, effects, z⟩], by simp, crosses⟩
      · obtain ⟨next, there, goes⟩ := step.advances before
        cases here.symm.trans there
        refine ⟨events, _, [], rfl, _, caller, before, already, holds, ?_⟩
        rcases goes with ⟨same, _⟩ | ⟨now, expires, expiry, _⟩ | ⟨now, w, acts, acted, after⟩
        · exact absurd (same ▸ holds) already
        · exact .inl ⟨now, expires, expiry⟩
        · exact .inr ⟨now, w, acts, acted, after⟩
    · obtain ⟨call, now, _, _, rfl⟩ := step.called (Nat.le_of_not_lt inside) here
      exact absurd holds (fresh now call)

theorem serves_acts (acts : System.Acts y place now caller z next effects)
    (serves : caller.Serves d) : next.Serves d := by
  cases acts.leads with
  | announceDrain | watchWorker | closeChannel | seeStopped | announceLate | cancelExport
  | abandonChannel => exact serves
  | closeBeyondClock | announceStop | panicOnNotice => trivial
  | giveNotice | readNothing | readFailure => exact nofun
  | claimLate => cases serves
  | _ => cases serves

theorem serves_expireOn (expiry : y.expireOn place now caller = some next)
    (serves : caller.Serves d) : next.Serves d := by
  rcases expireOn_cases expiry with ⟨limit, rfl, rfl⟩ | ⟨e, limit, rfl, rfl⟩
  · cases serves
  · exact serves

/-- From its claim on, a caller that has claimed the shutdown drains the provider. -/
theorem exists_claim {x : Exchange} (run : Run first events y) (claimed : x ∈ claims events) :
    ∃ left c right, events = left ++ c :: right ∧ Run c.after right y ∧
      c.after.callers[x.place]? = some (.announcingDrain x.deadline) ∧
      (∀ e ∈ right, ∃ caller, e.before.callers[x.place]? = some caller ∧ caller.Serves x.deadline) ∧
      ∃ caller, y.callers[x.place]? = some caller ∧ caller.Serves x.deadline := by
  obtain ⟨running, c, member, exchanged⟩ := mem_claims.mp claimed
  obtain ⟨left, right, rfl⟩ := List.append_of_mem member
  obtain ⟨_, stepped, rest⟩ := run.split
  have claim : x ∈ claims [⟨c.before, c.label, c.effects, c.after⟩] :=
    mem_claims.mpr ⟨running, c, List.mem_singleton_self c, exchanged⟩
  have begun := (claim_step (System.step_sound stepped) claim).2.2
  exact ⟨left, c, right, rfl, rest, begun,
    caller_keeps serves_acts serves_expireOn rest begun (by trivial)⟩

theorem ranBy_eq : ranBy = Channel.Effect.watchers := by
  funext e
  cases e <;> rfl

/-- The watcher of the caller at the place has run, or is set for the exit of the worker. -/
def Watches (place : Nat) (y : System) : Prop :=
  place ∈ y.notified ∨ place ∈ y.channel.shared.onStopped

theorem Watches.through {c : Channel.System Aggregation Nat}
    {l : Channel.Label Aggregation Measurement Nat} {done : List (Channel.Effect Aggregation Nat)}
    (watches : Watches place y) (part : y.channel.step l = some (c, done)) :
    Watches place (y.through c done) := by
  simp only [Watches, System.through, List.mem_append]
  rcases watches with ran | waits
  · exact .inl (.inl ran)
  · have still := Channel.mem_onStopped_step (Channel.System.step_sound part) waits
    simp only [Channel.Event.notified, ← ranBy_eq] at still
    exact still.symm.imp_left .inr

theorem Watches.step (watches : Watches place y) (step : System.Step y label z effects) :
    Watches place z := by
  cases step with
  | act other now caller next w effects found acts =>
    cases acts with
    | requestFlush _ c done part | watchWorker _ c done part | closeChannel _ c done part
    | abandonChannel _ c done part => exact watches.through part
    | _ => exact watches
  | collectFailed now data watchers a dropped worker c done _ _ _ part
  | collectBroken now _ data watchers a dropped worker c done _ _ _ _ part =>
    have working : Watches place (y.working watchers worker dropped) := watches
    exact working.through part
  | send _ _ _ c done part | discardStarter _ c done part | dropSender c done part
  | enter _ _ c done part | look _ _ c done part | poll _ _ c done _ part | decide c done part
  | wake c done part | leave c done part => exact watches.through part
  | _ => exact watches

theorem isWatching_acts (acts : System.Acts y place now caller z next effects)
    (watching : next.isWatching = true) : caller.isWatching = true ∨ Watches place z := by
  cases acts.leads with
  | closeChannel => exact .inl rfl
  | watchWorker =>
    cases acts with
    | watchWorker d c done part =>
      right
      cases Channel.System.step_sound part with
      | onStopped =>
        simp only [Watches, System.through, flatMap_ranBy_ran, List.mem_append]
        rcases y.channel.shared.watchStopped_cases place with ⟨now, _⟩ | ⟨_, waits⟩
        · simp [now]
        · simp [waits]
  | _ => cases watching

theorem watches_of_run (run : Run (.build settings built) events y)
    (here : y.callers[place]? = some caller) (watching : caller.isWatching = true) :
    Watches place y := by
  induction run generalizing caller with
  | nil => cases here
  | snoc _ stepped ih =>
    have step := System.step_sound stepped
    rcases step.found here with same | ⟨now, call, rfl⟩ | ⟨before, there, ⟨now, expiry⟩ | moved⟩
    · exact (ih same watching).step step
    · cases call <;> cases watching
    · rcases expireOn_cases expiry with ⟨_, _, rfl⟩ | ⟨_, _, _, rfl⟩ <;> cases watching
    · obtain ⟨now, w, rfl, acts, rfl⟩ := moved
      rcases isWatching_acts acts watching with already | watches
      · exact (ih there already).step step
      · exact watches

/-- Whoever waits for the worker has its watcher run as the worker exits, and not before. -/
theorem notified_iff_exited (run : Run (.build settings built) events y)
    (here : y.callers[place]? = some (.awaitingWorker d limit)) :
    place ∈ y.notified ↔ y.channel.receiver.phase = .exited := by
  constructor
  · intro ran
    refine Channel.exited_of_stopped (channelRun run) rfl ?_
    refine (Orderly.of_run run).watchers.resolve_right fun asked => ?_
    obtain ⟨c, same, asks⟩ := asked place (.inl ran)
    cases here.symm.trans same
    cases asks
  · intro exited
    have stopped := Channel.stopped_of_exited (channelRun run) (by simp [System.build,
      Channel.System.start, Channel.Receiver.create]) exited
    have deserted := Channel.deserted_run (channelRun run) rfl stopped
    refine (watches_of_run run here rfl).resolve_right fun waits => ?_
    rw [deserted.onStopped] at waits
    cases waits

/-- The wait begins as the channel is closed, and is as long as what is left of the deadline. -/
theorem awaits_acts (acts : System.Acts y place now caller z (.awaitingWorker d limit) effects) :
    caller = .closingChannel d ∧ now.add? (d.remaining now) = some limit := by
  cases acts.leads with
  | closeChannel =>
    generalize whole : Caller.awaitingWorker d limit = next at acts
    cases acts with
    | closeChannel _ c done part =>
      cases shown : now.add? (d.remaining now) with
      | none => simp [shown] at whole
      | some reached =>
        simp only [shown, Option.map_some, Option.getD_some, Caller.awaitingWorker.injEq] at whole
        exact ⟨rfl, congrArg some whole.2.symm⟩

/-- The wait lasts until the deadline is over. -/
theorem limit_le (run : Run (.build settings built) events y)
    (timely : ∀ e ∈ events, Event.isTimely e = true)
    (here : y.callers[place]? = some (.awaitingWorker d limit)) :
    d.since.nanos + d.length.nanos ≤ limit.nanos := by
  have fresh (now : Instant) (call : Call) : ¬Caller.ofCall now call = .awaitingWorker d limit := by
    cases call <;> exact nofun
  obtain ⟨left, e, right, rfl, caller, next, before, _, rfl, ⟨now, _, expiry⟩ | ⟨now, w, label, acts, _⟩⟩ :=
    exists_crossing (P := (· = .awaitingWorker d limit)) fresh run (fun c found => nomatch found) here rfl
  · rcases expireOn_cases expiry with ⟨_, _, same⟩ | ⟨_, _, _, same⟩ <;> cases same
  · obtain ⟨rfl, shown⟩ := awaits_acts acts
    have clock := timely e (by simp)
    simp only [Event.isTimely, label, before, Bool.and_eq_true, decide_eq_true_eq] at clock
    have later : d.since.nanos ≤ now.nanos := clock.1
    have reached : now.nanos + (d.length.nanos - (now.nanos - d.since.nanos)) = limit.nanos := by
      obtain ⟨_, same⟩ := Option.ite_none_right_eq_some.mp shown
      exact congrArg Instant.nanos (Option.some.inj same)
    omega

/-- Once its wait is over, a caller that does not panic answers as the wait ended. -/
theorem sawExit_acts {saw : Bool} (acts : System.Acts y place now caller z next effects)
    (waited : caller.sawExit? = some saw ∨ caller = .panicked) :
    next.sawExit? = some saw ∨ next = .panicked := by
  rcases waited with waited | rfl
  · cases acts.leads with
    | announceStop | announceLate | cancelExport | abandonChannel | giveNotice | readNothing
    | readFailure => exact .inl waited
    | panicOnNotice => exact .inr rfl
    | _ => cases waited
  · cases acts

theorem sawExit_expireOn {saw : Bool} (expiry : y.expireOn place now caller = some next)
    (waited : caller.sawExit? = some saw ∨ caller = .panicked) :
    next.sawExit? = some saw ∨ next = .panicked := by
  rcases expireOn_cases expiry with ⟨_, rfl, _⟩ | ⟨_, _, rfl, _⟩ <;> simp [Caller.sawExit?] at waited

theorem sawExit_outcome {outcome : ShutdownOutcome} (claimed : outcome ≠ .alreadyShutdown) :
    (Caller.shutDown outcome).sawExit? = some (decide (outcome ≠ .timedOut)) := by
  cases outcome with
  | alreadyShutdown => exact absurd rfl claimed
  | _ => rfl

/-- It is in a wait for the worker that this is settled. -/
theorem awaiting_of_acts (acts : System.Acts y place now caller z next effects)
    (pending : caller.sawExit? = none) (waited : next.sawExit?.isSome = true) :
    ∃ d limit, caller = .awaitingWorker d limit := by
  cases acts.leads with
  | seeStopped d limit => exact ⟨d, limit, rfl⟩
  | announceStop | announceLate | cancelExport | abandonChannel | giveNotice | readNothing
  | readFailure => cases pending
  | _ => cases waited

theorem acts_awaitingWorker
    (acts : System.Acts y place now (.awaitingWorker d limit) z next effects) :
    place ∈ y.notified ∧ next = .announcingStop d true := by
  cases acts with
  | seeStopped _ _ ran => exact ⟨ran, rfl⟩

/-- A wait ends with a look at the worker that is gone, or as its time is over and it is not. -/
theorem EndsWait.cases {e : Event} (ends : EndsWait place d now e)
    (step : System.Step e.before e.label e.after e.effects) :
    (place ∈ e.before.notified ∧
        e.after.callers[place]? = some (.announcingStop d true)) ∨
      place ∉ e.before.notified ∧ (∃ limit, e.before.callers[place]? = some (.awaitingWorker d limit) ∧
        limit ≤ now) ∧ e.after.callers[place]? = some (.announcingStop d false) := by
  obtain ⟨⟨limit, here⟩, own⟩ := ends
  obtain ⟨next, there, ⟨_, other⟩ | ⟨moment, label, expiry, _⟩ | ⟨moment, w, label, acts, _⟩⟩ :=
    step.advances here
  · exact absurd own (not_or.mpr (other now))
  · obtain rfl : now = moment := by
      rcases own with same | same <;> rw [label] at same <;> cases same
      rfl
    simp only [System.expireOn, Option.ite_none_right_eq_some] at expiry
    obtain ⟨⟨late, missed⟩, same⟩ := expiry
    cases same
    exact .inr ⟨missed, ⟨limit, here, late⟩, there⟩
  · obtain ⟨ran, rfl⟩ := acts_awaitingWorker acts
    exact .inl ⟨ran, there⟩

/-- The wait of a shutdown that has claimed the provider and has returned is over. -/
theorem exists_endsWait {x : Exchange} {outcome : ShutdownOutcome} (run : Run first events y)
    (claimed : x ∈ claims events) (returned : y.callers[x.place]? = some (.shutDown outcome)) :
    outcome ≠ .alreadyShutdown ∧ ∃ e ∈ events, ∃ now, EndsWait x.place x.deadline now e := by
  obtain ⟨left, c, right, rfl, rest, begun, serving, caller, here, served⟩ := exists_claim run claimed
  cases returned.symm.trans here
  have fresh (now : Instant) (call : Call) : ¬(Caller.ofCall now call).sawExit?.isSome = true := by
    cases call <;> exact nofun
  have start (c' : Caller) (found : c.after.callers[x.place]? = some c') :
      ¬c'.sawExit?.isSome = true := by
    cases begun.symm.trans found
    exact nofun
  have waited : (Caller.shutDown outcome).sawExit?.isSome = true := by rw [sawExit_outcome served]; rfl
  obtain ⟨_, e, _, rfl, caller, next, before, pending, settled, goes⟩ :=
    exists_crossing fresh rest start returned waited
  refine ⟨served, e, by simp, ?_⟩
  obtain ⟨_, same, serves⟩ := serving e (by simp)
  cases before.symm.trans same
  rcases goes with ⟨now, label, expiry⟩ | ⟨now, w, label, acts, _⟩
  · rcases expireOn_cases expiry with ⟨limit, rfl, _⟩ | ⟨d, limit, rfl, _⟩
    · cases serves
    · cases serves
      exact ⟨now, ⟨limit, before⟩, .inr label⟩
  · obtain ⟨d, limit, rfl⟩ := awaiting_of_acts acts (by simpa using pending) settled
    cases serves
    exact ⟨now, ⟨limit, before⟩, .inl label⟩

/-- A shutdown times out exactly where the worker is not gone as the wait for it ends, and its
deadline is over then. -/
theorem timedOut_iff {e : Event} {outcome : ShutdownOutcome}
    (run : Run (.build settings built) events y) (member : e ∈ events)
    (ends : EndsWait place d now e) (returned : y.callers[place]? = some (.shutDown outcome)) :
    (outcome = .timedOut ↔ e.before.channel.receiver.phase ≠ .exited) ∧
      ((∀ e ∈ events, Event.isTimely e = true) → outcome = .timedOut →
        d.since.nanos + d.length.nanos ≤ now.nanos) := by
  obtain ⟨left, right, rfl⟩ := List.append_of_mem member
  obtain ⟨earlier, stepped, rest⟩ := run.split
  have answer {saw : Bool} (there : e.after.callers[place]? = some (.announcingStop d saw)) :
      (Caller.shutDown outcome).sawExit? = some saw := by
    obtain ⟨_, same, waited⟩ := (caller_keeps sawExit_acts sawExit_expireOn rest there (.inl rfl)).2
    cases returned.symm.trans same
    exact waited.resolve_right nofun
  have claimed : outcome ≠ .alreadyShutdown := by
    rintro rfl
    rcases ends.cases (System.step_sound stepped) with ⟨_, there⟩ | ⟨_, _, there⟩ <;>
      cases answer there
  rw [sawExit_outcome claimed] at answer
  obtain ⟨limit, here⟩ := ends.waiting
  rcases ends.cases (System.step_sound stepped) with ⟨ran, there⟩ | ⟨missed, ⟨_, same, late⟩, there⟩
  · have seen : outcome ≠ .timedOut := by simpa using answer there
    have exited := (notified_iff_exited earlier here).mp ran
    exact ⟨⟨fun timedOut => absurd timedOut seen, fun stays => absurd exited stays⟩,
      fun _ timedOut => absurd timedOut seen⟩
  · have timedOut : outcome = .timedOut := by simpa using answer there
    cases here.symm.trans same
    refine ⟨⟨fun _ => mt (notified_iff_exited earlier here).mpr missed, fun _ => timedOut⟩,
      fun timely _ => ?_⟩
    have whole := limit_le earlier (fun e member => timely e (by simp [member])) here
    exact Nat.le_trans whole late

end Telemetry.Provider
