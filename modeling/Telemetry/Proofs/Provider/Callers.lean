import Telemetry.Proofs.Channel.Loop
import Telemetry.Proofs.Provider.ChannelPart

/-! The callers of a provider. At most one of them shuts it down, it alone abandons the channel,
and it reads the verdict of the drain only once the worker is gone. -/
namespace Telemetry.Provider

namespace Caller

/-- Whether the caller has claimed the shutdown and not given up on the worker. -/
def isPatient : Caller → Bool
  | announcingDrain _ | watchingWorker _ | closingChannel _ | awaitingWorker _ _ | announcingStop _ _
  | cancellingExport _ | abandoningChannel _ | readingFailure | shutDown .flushed
  | shutDown (.failed _) => true
  | _ => false

/-- Whether the caller is the one that shuts the provider down. -/
def isOwner : Caller → Bool
  | givingNotice _ | shutDown .timedOut => true
  | c => c.isPatient

/-- Whether the caller has seen that the worker is gone. -/
def hasSeenStop : Caller → Bool
  | announcingStop _ true | readingFailure | shutDown .flushed | shutDown (.failed _) => true
  | _ => false

/-- Whether the caller has read what the drain holds. -/
def hasReadFailure : Caller → Bool
  | shutDown .flushed | shutDown (.failed _) => true
  | _ => false

/-- Whether the caller has asked for a flush. -/
def hasAskedFlush : Caller → Bool
  | awaitingFlush _ | flushed _ | panicked => true
  | _ => false

/-- Where a call can go on from where it is, whatever it finds there. -/
inductive Leads : Caller → Caller → Prop where
  | takeStarter (next : Option Deadline) : Leads (takingStarter next) (announcing next)
  | findStarted : Leads (takingStarter none) started
  | findStartedFirst (d : Deadline) : Leads (takingStarter (some d)) (claiming d)
  | announce : Leads (announcing none) started
  | announceFirst (d : Deadline) : Leads (announcing (some d)) (claiming d)
  | checkFlush (timeout : Duration) : Leads (checkingFlush timeout) (requestingFlush timeout)
  | refuseFlush (timeout : Duration) : Leads (checkingFlush timeout) (flushed false)
  | requestFlush (timeout : Duration) (limit : Instant) :
      Leads (requestingFlush timeout) (awaitingFlush limit)
  | requestBeyondClock (timeout : Duration) : Leads (requestingFlush timeout) panicked
  | seeFlushed (limit : Instant) : Leads (awaitingFlush limit) (flushed true)
  | startFirst (d : Deadline) : Leads (checkingState d) (takingStarter (some d))
  | checkState (d : Deadline) : Leads (checkingState d) (claiming d)
  | claim (d : Deadline) : Leads (claiming d) (announcingDrain d)
  | claimLate (d : Deadline) : Leads (claiming d) (shutDown .alreadyShutdown)
  | announceDrain (d : Deadline) : Leads (announcingDrain d) (watchingWorker d)
  | watchWorker (d : Deadline) : Leads (watchingWorker d) (closingChannel d)
  | closeChannel (d : Deadline) (limit : Instant) : Leads (closingChannel d) (awaitingWorker d limit)
  | closeBeyondClock (d : Deadline) : Leads (closingChannel d) panicked
  | seeStopped (d : Deadline) (limit : Instant) : Leads (awaitingWorker d limit) (announcingStop d true)
  | announceStop (d : Deadline) : Leads (announcingStop d true) readingFailure
  | announceLate (d : Deadline) : Leads (announcingStop d false) (cancellingExport d)
  | cancelExport (d : Deadline) : Leads (cancellingExport d) (abandoningChannel d)
  | abandonChannel (d : Deadline) : Leads (abandoningChannel d) (givingNotice d)
  | giveNotice (d : Deadline) : Leads (givingNotice d) (shutDown .timedOut)
  | panicOnNotice (d : Deadline) : Leads (givingNotice d) panicked
  | readNothing : Leads readingFailure (shutDown .flushed)
  | readFailure (e : ExportError) : Leads readingFailure (shutDown (.failed e))

theorem isOwner_of_isPatient {c : Caller} (patient : c.isPatient = true) : c.isOwner = true := by
  unfold isOwner
  split
  · rfl
  · rfl
  · exact patient

theorem isPatient_of_hasSeenStop {c : Caller} (seen : c.hasSeenStop = true) : c.isPatient = true := by
  unfold hasSeenStop at seen
  split at seen
  · rfl
  · rfl
  · rfl
  · rfl
  · cases seen

theorem hasSeenStop_of_hasReadFailure {c : Caller} (read : c.hasReadFailure = true) :
    c.hasSeenStop = true := by
  unfold hasReadFailure at read
  split at read
  · rfl
  · rfl
  · cases read

end Caller

variable {y z : System} {label : Label} {effects : List Effect} {place : Nat} {now : Instant}
  {caller next : Caller}

namespace System.Acts

theorem callers (acts : Acts y place now caller z next effects) : z.callers = y.callers := by
  cases acts <;> rfl

theorem leads (acts : Acts y place now caller z next effects) : caller.Leads next := by
  cases acts with
  | takeStarter | seeFlushed | claim | claimLate | announceDrain | watchWorker | seeStopped
  | cancelExport | abandonChannel => constructor
  | findStarted d | announce d => cases d <;> constructor
  | checkFlush | checkState | giveNotice => split <;> constructor
  | announceStop d inTime => cases inTime <;> constructor
  | requestFlush timeout => cases now.add? timeout <;> constructor
  | closeChannel d => cases now.add? (d.remaining now) <;> constructor
  | readFailure => cases y.drain.failure <;> constructor

/-- A shutdown is claimed in the running state alone, which ends by it. -/
theorem isOwner (acts : Acts y place now caller z next effects) (owner : next.isOwner = true) :
    caller.isOwner = true ∨ y.state = .running ∧ z.state.isAccepting = false := by
  cases acts.leads with
  | claim d =>
    cases acts with
    | claim _ running => exact .inr ⟨running, rfl⟩
  | announceDrain | watchWorker | closeChannel | seeStopped | announceStop | announceLate | cancelExport
  | abandonChannel | giveNotice | readNothing | readFailure => exact .inl rfl
  | _ => cases owner

theorem isPatient (acts : Acts y place now caller z next effects) (patient : next.isPatient = true) :
    caller.isPatient = true ∨ y.state = .running := by
  cases acts.leads with
  | claim d =>
    cases acts with
    | claim _ running => exact .inr running
  | announceDrain | watchWorker | closeChannel | seeStopped | announceStop | announceLate | cancelExport
  | readNothing | readFailure => exact .inl rfl
  | _ => cases patient

theorem hasSeenStop (acts : Acts y place now caller z next effects)
    (seen : next.hasSeenStop = true) :
    caller.hasSeenStop = true ∨ caller.isPatient = true ∧ place ∈ y.notified := by
  cases acts.leads with
  | seeStopped =>
    cases acts with
    | seeStopped _ _ ran => exact .inr ⟨rfl, ran⟩
  | announceStop | readNothing | readFailure => exact .inl rfl
  | _ => cases seen

theorem hasReadFailure (acts : Acts y place now caller z next effects)
    (read : next.hasReadFailure = true) : caller = .readingFailure := by
  cases acts.leads with
  | readNothing | readFailure => rfl
  | _ => cases read

theorem hasAskedFlush (acts : Acts y place now caller z next effects)
    (asked : caller.hasAskedFlush = true) : next.hasAskedFlush = true := by
  cases acts with
  | seeFlushed => rfl
  | _ => cases asked

end System.Acts

/-- Only a wait ends by its time. -/
theorem expireOn_cases (expired : y.expireOn place now caller = some next) :
    (∃ limit, caller = .awaitingFlush limit ∧ next = .flushed false) ∨
      ∃ d limit, caller = .awaitingWorker d limit ∧ next = .announcingStop d false := by
  unfold System.expireOn at expired
  split at expired
  · simp only [Option.ite_none_right_eq_some] at expired
    exact .inl ⟨_, rfl, (Option.some.inj expired.2).symm⟩
  · simp only [Option.ite_none_right_eq_some] at expired
    exact .inr ⟨_, _, rfl, (Option.some.inj expired.2).symm⟩
  · cases expired

/-- The ways in which the state changes. -/
inductive Moves (y : System) : Label → State → Prop where
  | start (place : Nat) (now : Instant) (next : Option Deadline)
      (found : y.callers[place]? = some (.announcing next)) (idle : y.state = .idle) :
      Moves y (.act place now) .running
  | drain (place : Nat) (now : Instant) (d : Deadline)
      (found : y.callers[place]? = some (.claiming d)) (running : y.state = .running) :
      Moves y (.act place now) .draining
  | stop (place : Nat) (now : Instant) (d : Deadline) (inTime : Bool)
      (found : y.callers[place]? = some (.announcingStop d inTime)) : Moves y (.act place now) .stopped

namespace System.Step

theorem moves (step : Step y label z effects) : z.state = y.state ∨ Moves y label z.state := by
  cases step with
  | act place now caller next w effects found acts =>
    cases acts with
    | announce next =>
      by_cases idle : y.state = .idle
      · simp only [if_pos idle]
        exact .inr (.start place now next found idle)
      · simp only [if_neg idle]
        exact .inl trivial
    | claim d running => exact .inr (.drain place now d found running)
    | announceStop d inTime => exact .inr (.stop place now d inTime found)
    | _ => exact .inl rfl
  | _ => exact .inl rfl

/-- The state never goes back. -/
theorem state_le (step : Step y label z effects) : y.state ≤ z.state := by
  rcases step.moves with same | moves
  · rw [same]
    exact Nat.le_refl _
  · generalize after : z.state = state at moves
    cases moves with
    | start _ _ _ _ idle => rw [idle]; decide
    | drain _ _ _ _ running => rw [running]; decide
    | stop => cases y.state <;> decide

/-- What becomes of a caller in a step: it stays where it is, its time is over, or it moves. -/
theorem advances (step : Step y label z effects) (here : y.callers[place]? = some caller) :
    ∃ next, z.callers[place]? = some next ∧
      (next = caller ∧ (∀ now, label ≠ .act place now ∧ label ≠ .expire place now) ∨
        (∃ now, label = .expire place now ∧ y.expireOn place now caller = some next ∧
          z = { y with callers := y.callers.set place next }) ∨
        ∃ now w, label = .act place now ∧ Acts y place now caller w next effects ∧
          z = { w with callers := w.callers.set place next }) := by
  have inside : place < y.callers.length := (List.getElem?_eq_some_iff.mp here).1
  cases step with
  | call c now =>
    exact ⟨caller, by rw [List.getElem?_append_left inside, here], .inl ⟨rfl, by simp⟩⟩
  | act other now acting next w effects there acts =>
    by_cases same : other = place
    · subst same
      cases here.symm.trans there
      exact ⟨next, List.getElem?_set_self (acts.callers ▸ inside), .inr (.inr ⟨now, w, rfl, acts, rfl⟩)⟩
    · exact ⟨caller, by rw [List.getElem?_set_ne same, acts.callers, here], .inl ⟨rfl, by simp [same]⟩⟩
  | expire other now acting next there expired =>
    by_cases same : other = place
    · subst same
      cases here.symm.trans there
      exact ⟨next, List.getElem?_set_self inside, .inr (.inl ⟨now, rfl, expired, rfl⟩)⟩
    · exact ⟨caller, by rw [List.getElem?_set_ne same, here], .inl ⟨rfl, by simp [same]⟩⟩
  | _ => exact ⟨caller, here, .inl ⟨rfl, by simp⟩⟩

/-- A caller that was not there before has just called. -/
theorem called (step : Step y label z effects) (outside : y.callers.length ≤ place)
    (found : z.callers[place]? = some next) :
    ∃ call now, label = .call call now ∧ place = y.callers.length ∧ next = .ofCall now call := by
  have inside : place < z.callers.length := (List.getElem?_eq_some_iff.mp found).1
  cases step with
  | call c now =>
    rw [List.length_append, List.length_singleton] at inside
    obtain rfl : place = y.callers.length := by omega
    rw [List.getElem?_append_right (Nat.le_refl _), Nat.sub_self] at found
    exact ⟨c, now, rfl, rfl, (Option.some.inj found).symm⟩
  | act other now acting next w effects there acts =>
    rw [List.length_set, acts.callers] at inside
    exact absurd outside (Nat.not_le.mpr inside)
  | expire other now acting next there expired =>
    rw [List.length_set] at inside
    exact absurd outside (Nat.not_le.mpr inside)
  | _ => exact absurd outside (Nat.not_le.mpr inside)

/-- Where a caller comes from: it was there, it has just called, its time is over, or it has
taken a step. -/
theorem found (step : Step y label z effects) (here : z.callers[place]? = some next) :
    y.callers[place]? = some next ∨ (∃ now call, next = .ofCall now call) ∨
      ∃ caller, y.callers[place]? = some caller ∧
        ((∃ now, y.expireOn place now caller = some next) ∨
          ∃ now w, label = .act place now ∧ Acts y place now caller w next effects ∧
            z = { w with callers := w.callers.set place next }) := by
  by_cases inside : place < y.callers.length
  · have before : y.callers[place]? = some y.callers[place] := List.getElem?_eq_getElem inside
    obtain ⟨after, there, goes⟩ := step.advances before
    cases here.symm.trans there
    rcases goes with ⟨same, _⟩ | ⟨now, _, expired, _⟩ | moved
    · exact .inl (same ▸ before)
    · exact .inr (.inr ⟨_, before, .inl ⟨now, expired⟩⟩)
    · exact .inr (.inr ⟨_, before, .inr moved⟩)
  · obtain ⟨call, now, _, _, rfl⟩ := step.called (Nat.le_of_not_lt inside) here
    exact .inr (.inl ⟨now, call, rfl⟩)

/-- A caller that has asked for a flush keeps its place, and asks for nothing else. -/
theorem hasAskedFlush (step : Step y label z effects) (here : y.callers[place]? = some caller)
    (asked : caller.hasAskedFlush = true) :
    ∃ next, z.callers[place]? = some next ∧ next.hasAskedFlush = true := by
  obtain ⟨next, there, ⟨rfl, _⟩ | ⟨now, _, expired, _⟩ | ⟨now, w, _, acts, _⟩⟩ := step.advances here
  · exact ⟨next, there, asked⟩
  · refine ⟨next, there, ?_⟩
    rcases expireOn_cases expired with ⟨limit, _, rfl⟩ | ⟨d, limit, rfl, _⟩
    · rfl
    · cases asked
  · exact ⟨next, there, acts.hasAskedFlush asked⟩

theorem isOwner (step : Step y label z effects) (here : z.callers[place]? = some next)
    (owner : next.isOwner = true) :
    (∃ caller, y.callers[place]? = some caller ∧ caller.isOwner = true) ∨
      y.state = .running ∧ z.state.isAccepting = false ∧ ∃ now, label = .act place now := by
  rcases step.found here with same | ⟨now, call, rfl⟩ | ⟨caller, there, ⟨now, expired⟩ | moved⟩
  · exact .inl ⟨next, same, owner⟩
  · cases call <;> cases owner
  · rcases expireOn_cases expired with ⟨limit, _, rfl⟩ | ⟨d, limit, rfl, _⟩
    · cases owner
    · exact .inl ⟨_, there, rfl⟩
  · obtain ⟨now, w, rfl, acts, rfl⟩ := moved
    rcases acts.isOwner owner with before | ⟨running, ends⟩
    · exact .inl ⟨caller, there, before⟩
    · exact .inr ⟨running, ends, now, rfl⟩

theorem isPatient (step : Step y label z effects) (here : z.callers[place]? = some next)
    (patient : next.isPatient = true) :
    (∃ caller, y.callers[place]? = some caller ∧ caller.isPatient = true) ∨ y.state = .running := by
  rcases step.found here with same | ⟨now, call, rfl⟩ | ⟨caller, there, ⟨now, expired⟩ | moved⟩
  · exact .inl ⟨next, same, patient⟩
  · cases call <;> cases patient
  · rcases expireOn_cases expired with ⟨limit, _, rfl⟩ | ⟨d, limit, rfl, _⟩
    · cases patient
    · exact .inl ⟨_, there, rfl⟩
  · obtain ⟨now, w, rfl, acts, rfl⟩ := moved
    exact (acts.isPatient patient).imp_left fun before => ⟨caller, there, before⟩

theorem hasSeenStop (step : Step y label z effects) (here : z.callers[place]? = some next)
    (seen : next.hasSeenStop = true) :
    ∃ caller, y.callers[place]? = some caller ∧
      (caller.hasSeenStop = true ∨ caller.isPatient = true ∧ place ∈ y.notified) := by
  rcases step.found here with same | ⟨now, call, rfl⟩ | ⟨caller, there, ⟨now, expired⟩ | moved⟩
  · exact ⟨next, same, .inl seen⟩
  · cases call <;> cases seen
  · rcases expireOn_cases expired with ⟨limit, _, rfl⟩ | ⟨d, limit, _, rfl⟩ <;> cases seen
  · obtain ⟨now, w, rfl, acts, rfl⟩ := moved
    exact ⟨caller, there, acts.hasSeenStop seen⟩

/-- A caller that has its answer keeps it. -/
theorem isDone (step : Step y label z effects) (here : y.callers[place]? = some caller)
    (done : caller.isDone = true) : z.callers[place]? = some caller := by
  obtain ⟨next, there, ⟨rfl, _⟩ | ⟨now, _, expired, _⟩ | ⟨now, w, _, acts, _⟩⟩ := step.advances here
  · exact there
  · rcases expireOn_cases expired with ⟨limit, rfl, _⟩ | ⟨d, limit, rfl, _⟩ <;> cases done
  · cases acts <;> cases done

/-- The provider never takes measurements again. -/
theorem accepting (step : Step y label z effects) (accepting : z.state.isAccepting = true) :
    y.state.isAccepting = true := by
  rcases step.moves with same | moves
  · rwa [← same]
  · generalize z.state = state at accepting moves
    cases moves with
    | start _ _ _ _ idle => rw [idle]; rfl
    | drain | stop => cases accepting

end System.Step

/-- Once the provider takes no more measurements it never does again. -/
theorem closed_run {first : System} {events : List Event} (run : Run first events y)
    (closed : first.state.isAccepting = false) :
    (∀ e ∈ events, e.before.state.isAccepting = false) ∧ y.state.isAccepting = false := by
  refine run.keeps (fun s => s.state.isAccepting = false) closed fun stepped before => ?_
  refine Bool.eq_false_iff.mpr fun accepting => ?_
  exact Bool.eq_false_iff.mp before ((System.step_sound stepped).accepting accepting)

theorem abandon_mem_channelLabels (abandons : .abandon ∈ y.channelLabels label) :
    ∃ place now d, label = .act place now ∧ y.callers[place]? = some (.abandoningChannel d) := by
  cases label with
  | act place now =>
    cases there : y.callers[place]? with
    | none => simp [System.channelLabels, there] at abandons
    | some caller =>
      cases caller with
      | abandoningChannel d => exact ⟨place, now, d, rfl, there⟩
      | _ => simp [System.channelLabels, there, Caller.channelLabels] at abandons
  | collect now order panics =>
    simp only [System.channelLabels] at abandons
    unfold System.brokenEnd at abandons
    grind
  | send | poll => simp [System.channelLabels] at abandons
  | _ => simp [System.channelLabels] at abandons

/-- Only the owner of the shutdown abandons the channel. -/
theorem abandons_step (step : System.Step y label z effects)
    (kept : y.channel.shared.isAbandoned = false) (gone : z.channel.shared.isAbandoned = true) :
    ∃ place now d, label = .act place now ∧ y.callers[place]? = some (.abandoningChannel d) ∧
      z.callers[place]? = some (.givingNotice d) := by
  have abandons : ∃ e ∈ Event.channel ⟨y, label, effects, z⟩, Channel.Event.isAbandon e = true := by
    by_contra none
    have still := Channel.not_abandoned (channelRun_step step) kept fun e member =>
      Bool.eq_false_iff.mpr fun abandons => none ⟨e, member, abandons⟩
    exact Bool.false_ne_true (still.symm.trans gone)
  obtain ⟨e, member, abandons⟩ := abandons
  have same : e.label = .abandon := by
    unfold Channel.Event.isAbandon at abandons
    split at abandons
    · assumption
    · cases abandons
  obtain ⟨place, now, d, rfl, there⟩ := abandon_mem_channelLabels (same ▸ label_mem_of_mem_follow member)
  refine ⟨place, now, d, rfl, there, ?_⟩
  cases step with
  | act _ _ caller next w effects found acts =>
    cases there.symm.trans found
    have inside := (List.getElem?_eq_some_iff.mp there).1
    rw [List.getElem?_set_self (acts.callers ▸ inside)]
    cases acts
    rfl

/-- The watchers that wait for data of the channel to be dealt with. -/
def flushWatchers (c : Channel.System Aggregation Nat) : List Nat :=
  c.shared.waiting ++
    match c.receiver.phase with
    | .calling _ watchers | .running watchers | .deciding _ watchers | .retrying _ watchers => watchers
    | _ => []

theorem flatMap_ranBy_ran (watchers : List Nat) :
    (Channel.System.ran watchers : List (Channel.Effect Aggregation Nat)).flatMap ranBy = watchers := by
  unfold Channel.System.ran
  split
  · next none => rw [List.isEmpty_iff.mp none, List.flatMap_nil]
  · simp [ranBy]

/-- A watcher waits for data, and may run, only if it was passed in for that, until the receiver
exits. -/
theorem flushWatchers_step {c d : Channel.System Aggregation Nat}
    {l : Channel.Label Aggregation Measurement Nat} {done : List (Channel.Effect Aggregation Nat)}
    (step : Channel.System.Step c l d done) {w : Nat}
    (there : w ∈ flushWatchers d ∨ w ∈ done.flatMap ranBy) :
    w ∈ flushWatchers c ∨ l = .onNextFlush w ∨ d.shared.isStopped = true := by
  cases step with
  | leave => exact .inr (.inr rfl)
  | send x =>
    have waiting : (c.shared.send c.capacity x).waiting = c.shared.waiting := by
      unfold Channel.Shared.send
      split
      · rfl
      · split <;> rfl
    exact .inl (by simpa [flushWatchers, waiting] using there)
  | onNextFlush v =>
    simp only [flatMap_ranBy_ran, Channel.Shared.onNextFlush] at there
    split at there
    · simp_all [flushWatchers]
      grind
    · simp_all [flushWatchers]
      grind
  | onStopped v =>
    simp only [flatMap_ranBy_ran, Channel.Shared.watchStopped] at there
    split at there
    · next stopped => exact .inr (.inr (by simpa using stopped))
    · simp_all [flushWatchers]
  | abandon =>
    simp only [flatMap_ranBy_ran, Channel.Shared.abandon] at there
    simp_all [flushWatchers]
    grind
  | enter now r phase entered => simp_all [flushWatchers, Channel.Receiver.phase_enter entered]
  | _ => simp_all [flushWatchers, ranBy, Channel.Shared.close, Channel.Shared.taken,
      Channel.Shared.emptied, Channel.Receiver.taking, Channel.Receiver.rest, Channel.Receiver.retried]

theorem through_watchers {c : Channel.System Aggregation Nat}
    {l : Channel.Label Aggregation Measurement Nat} {done : List (Channel.Effect Aggregation Nat)}
    (part : y.channel.step l = some (c, done)) {w : Nat}
    (there : w ∈ (y.through c done).notified ∨ w ∈ flushWatchers c) :
    (w ∈ y.notified ∨ w ∈ flushWatchers y.channel) ∨ l = .onNextFlush w ∨ c.shared.isStopped = true := by
  have one := flushWatchers_step (Channel.System.step_sound part) (w := w)
  simp only [System.through, List.mem_append] at there
  tauto

theorem through_watchers_of_ne {c : Channel.System Aggregation Nat}
    {l : Channel.Label Aggregation Measurement Nat} {done : List (Channel.Effect Aggregation Nat)}
    (part : y.channel.step l = some (c, done)) {w : Nat} (other : l ≠ .onNextFlush w)
    (there : w ∈ (y.through c done).notified ∨ w ∈ flushWatchers c) :
    (w ∈ y.notified ∨ w ∈ flushWatchers y.channel) ∨ c.shared.isStopped = true :=
  (through_watchers part there).imp_right fun asks => asks.resolve_left other

theorem flushWatchers_working {data : Aggregation} {watchers : List Nat} (worker : Worker)
    (dropped : Nat) (phase : y.channel.receiver.phase = .calling data watchers) :
    flushWatchers (y.working watchers worker dropped).channel = flushWatchers y.channel := by
  simp [flushWatchers, System.working, phase]

/-- What waits for data, or was run, is a caller that asks for a flush, until the worker exits. -/
theorem watchers_step (step : System.Step y label z effects) {w : Nat}
    (there : w ∈ z.notified ∨ w ∈ flushWatchers z.channel) :
    (w ∈ y.notified ∨ w ∈ flushWatchers y.channel) ∨
      (∃ next, z.callers[w]? = some next ∧ next.hasAskedFlush = true) ∨
      z.channel.shared.isStopped = true := by
  cases step with
  | act other now caller next v effects found acts =>
    cases acts with
    | requestFlush timeout c done part =>
      rcases through_watchers part there with before | asks | stopped
      · exact .inl before
      · cases asks
        refine .inr (.inl ⟨_, List.getElem?_set_self (List.getElem?_eq_some_iff.mp found).1, ?_⟩)
        cases now.add? timeout <;> rfl
      · exact .inr (.inr stopped)
    | watchWorker d c done part | closeChannel d c done part | abandonChannel d c done part =>
      exact (through_watchers_of_ne part (by simp) there).imp_right .inr
    | _ => exact .inl there
  | collectFailed now data watchers a dropped worker c done phase _ _ part
  | collectBroken now _ data watchers a dropped worker c done phase _ _ _ part =>
    rw [← flushWatchers_working worker dropped phase]
    exact (through_watchers_of_ne part (by simp) there).imp_right .inr
  | collectBegun now data watchers a dropped worker phase =>
    rw [← flushWatchers_working worker dropped phase]
    exact .inl there
  | send _ _ _ c done part | discardStarter _ c done part | dropSender c done part
  | enter _ _ c done part | look _ _ c done part | poll _ _ c done _ part | decide c done part
  | wake c done part | leave c done part =>
    exact (through_watchers_of_ne part (by simp) there).imp_right .inr
  | _ => exact .inl there

/-- What every run of a provider keeps of its callers. -/
structure Orderly (y : System) : Prop where
  /-- At most one caller ever shuts the provider down. -/
  owner : ∀ (p : Nat) (c : Caller), y.callers[p]? = some c → c.isOwner = true →
    y.state.isAccepting = false ∧
      ∀ (q : Nat) (d : Caller), y.callers[q]? = some d → d.isOwner = true → q = p
  /-- It is no longer patient once the channel is abandoned. -/
  patient : y.channel.shared.isAbandoned = true → y.state.isAccepting = false ∧
    ∀ (p : Nat) (c : Caller), y.callers[p]? = some c → c.isPatient = false
  /-- It sees the worker gone only if the worker is. -/
  stopped : ∀ (p : Nat) (c : Caller), y.callers[p]? = some c → c.hasSeenStop = true →
    y.channel.shared.isStopped = true
  watchers : y.channel.shared.isStopped = true ∨
    ∀ w, w ∈ y.notified ∨ w ∈ flushWatchers y.channel →
      ∃ c, y.callers[w]? = some c ∧ c.hasAskedFlush = true

namespace Orderly

theorem start (settings : Settings) (built : Timestamp) : Orderly (.build settings built) where
  owner p c found := by cases found
  patient abandoned := by cases abandoned
  stopped p c found := by cases found
  watchers := .inr fun w there => by rcases there with there | there <;> cases there

variable (orderly : Orderly y) (step : System.Step y label z effects)
include orderly step

theorem owner_step {p : Nat} {c : Caller} (found : z.callers[p]? = some c)
    (owner : c.isOwner = true) :
    z.state.isAccepting = false ∧
      ∀ (q : Nat) (d : Caller), z.callers[q]? = some d → d.isOwner = true → q = p := by
  rcases step.isOwner found owner with ⟨earlier, there, before⟩ | ⟨running, ends, now, rfl⟩
  · obtain ⟨closed, unique⟩ := orderly.owner p earlier there before
    refine ⟨Bool.eq_false_iff.mpr fun accepting => ?_, fun q d other mine => ?_⟩
    · cases closed.symm.trans (step.accepting accepting)
    · rcases step.isOwner other mine with ⟨old, place, same⟩ | ⟨running, _⟩
      · exact unique q old place same
      · rw [running] at closed
        cases closed
  · refine ⟨ends, fun q d other mine => ?_⟩
    rcases step.isOwner other mine with ⟨old, place, same⟩ | ⟨_, _, _, claims⟩
    · have closed := (orderly.owner q old place same).1
      rw [running] at closed
      cases closed
    · cases claims
      rfl

theorem patient_step (gone : z.channel.shared.isAbandoned = true) :
    z.state.isAccepting = false ∧
      ∀ (p : Nat) (c : Caller), z.callers[p]? = some c → c.isPatient = false := by
  have closing : y.state.isAccepting = false → z.state.isAccepting = false := fun closed =>
    Bool.eq_false_iff.mpr fun accepting =>
      Bool.false_ne_true (closed.symm.trans (step.accepting accepting))
  cases before : y.channel.shared.isAbandoned with
  | true =>
    obtain ⟨closed, impatient⟩ := orderly.patient before
    refine ⟨closing closed, fun p c found => Bool.eq_false_iff.mpr fun patient => ?_⟩
    rcases step.isPatient found patient with ⟨earlier, there, still⟩ | running
    · cases still.symm.trans (impatient p earlier there)
    · rw [running] at closed
      cases closed
  | false =>
    obtain ⟨place, now, d, _, there, after⟩ := abandons_step step before gone
    obtain ⟨closed, unique⟩ := orderly.owner place _ there rfl
    refine ⟨closing closed, fun p c found => Bool.eq_false_iff.mpr fun patient => ?_⟩
    rcases step.isPatient found patient with ⟨earlier, here, still⟩ | running
    · obtain rfl := unique p earlier here (Caller.isOwner_of_isPatient still)
      cases found.symm.trans after
      cases patient
    · rw [running] at closed
      cases closed

theorem stopped_step {p : Nat} {c : Caller} (found : z.callers[p]? = some c)
    (seen : c.hasSeenStop = true) : z.channel.shared.isStopped = true := by
  refine (Channel.isStopped_run (channelRun_step step)).mpr (.inl ?_)
  obtain ⟨earlier, there, before | ⟨patient, ran⟩⟩ := step.hasSeenStop found seen
  · exact orderly.stopped p earlier there before
  · -- Before the worker exits, only callers that ask for a flush are notified.
    refine orderly.watchers.resolve_right fun asked => ?_
    obtain ⟨c, same, asks⟩ := asked p (.inl ran)
    cases there.symm.trans same
    cases earlier with
    | awaitingFlush | flushed | panicked => cases patient
    | _ => cases asks

theorem watchers_step : z.channel.shared.isStopped = true ∨
    ∀ w, w ∈ z.notified ∨ w ∈ flushWatchers z.channel →
      ∃ c, z.callers[w]? = some c ∧ c.hasAskedFlush = true := by
  by_cases stopped : z.channel.shared.isStopped = true
  · exact .inl stopped
  · refine .inr fun w there => ?_
    rcases Provider.watchers_step step there with before | asks | gone
    · rcases orderly.watchers with already | asked
      · exact absurd ((Channel.isStopped_run (channelRun_step step)).mpr (.inl already)) stopped
      · obtain ⟨c, found, asks⟩ := asked w before
        exact step.hasAskedFlush found asks
    · exact asks
    · exact absurd gone stopped

omit orderly step in
theorem of_run {settings : Settings} {built : Timestamp} {events : List Event}
    (run : Run (.build settings built) events y) : Orderly y := by
  induction run with
  | nil => exact start settings built
  | snoc _ stepped ih =>
    have step := System.step_sound stepped
    exact ⟨fun p c => ih.owner_step step, ih.patient_step step, fun p c => ih.stopped_step step,
      ih.watchers_step step⟩

end Orderly
end Telemetry.Provider
