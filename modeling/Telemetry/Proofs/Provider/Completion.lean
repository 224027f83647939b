import Telemetry.Proofs.Provider.Lifecycle

/-! How a shutdown comes to its end. A call takes few steps of its own, and none is ever stuck for
longer than its wait. What it leaves behind depends on whether the clock can show the end of its
deadline. Main result: `shutDown_completes_iff`. -/
namespace Telemetry.Provider

/-- Whether it is the caller at the place that takes the step, or gives up waiting. -/
def Event.isOf (place : Nat) (e : Event) : Bool :=
  match e.label with
  | .act other _ | .expire other _ => other == place
  | _ => false

/-- Whether the caller has waited until its time was over. -/
def Caller.hasGivenUp : Caller → Bool
  | announcingStop _ false | cancellingExport _ | abandoningChannel _ | givingNotice _
  | flushed false | shutDown .timedOut | panicked => true
  | _ => false

/-- Another caller was about to say that the worker is started, or to claim the shutdown. -/
def Overlapped (place : Nat) (events : List Event) : Prop :=
  ∃ e ∈ events, ∃ (q : Nat) (other : Caller), q ≠ place ∧ e.before.callers[q]? = some other ∧
    ((∃ next, other = .announcing next) ∨ ∃ d, other = .claiming d)

variable {y z : System} {label : Label} {effects : List Effect} {events before after : List Event}
  {place : Nat} {now : Instant} {caller next : Caller} {d : Deadline} {c : Event}
  {settings : Settings} {built : Timestamp}

/-- How many steps the call at a place takes at most, made or not. -/
def System.stepsLeftAt (y : System) (place : Nat) : Nat :=
  (y.callers[place]?.map Caller.stepsLeft).getD 12

theorem stepsLeft_ofCall (now : Instant) (call : Call) : (Caller.ofCall now call).stepsLeft ≤ 12 := by
  cases call <;> simp [Caller.ofCall, Caller.stepsLeft]

theorem stepsLeft_acts (acts : System.Acts y place now caller z next effects) :
    next.stepsLeft < caller.stepsLeft := by
  cases acts.leads <;> simp [Caller.stepsLeft]

theorem stepsLeft_expireOn (expiry : y.expireOn place now caller = some next) :
    next.stepsLeft < caller.stepsLeft := by
  rcases expireOn_cases expiry with ⟨limit, rfl, rfl⟩ | ⟨d, limit, rfl, rfl⟩ <;> simp [Caller.stepsLeft]

/-- Only a caller that is there takes a step of its own. -/
theorem exists_of_isOf (step : System.Step y label z effects)
    (own : Event.isOf place ⟨y, label, effects, z⟩ = true) :
    ∃ caller, y.callers[place]? = some caller := by
  cases step with
  | act other now caller next w effects found | expire other now caller next found =>
    obtain rfl : other = place := by simpa [Event.isOf] using own
    exact ⟨caller, found⟩
  | _ => cases own

theorem isOf_eq_false (other : ∀ now, label ≠ .act place now ∧ label ≠ .expire place now) :
    Event.isOf place ⟨y, label, effects, z⟩ = false := by
  unfold Event.isOf
  split
  · next q now same => exact beq_false_of_ne fun here => (other now).1 (here ▸ same)
  · next q now same => exact beq_false_of_ne fun here => (other now).2 (here ▸ same)
  · rfl

theorem stepsLeftAt_step (step : System.Step y label z effects) (place : Nat) :
    z.stepsLeftAt place + (if Event.isOf place ⟨y, label, effects, z⟩ then 1 else 0) ≤
      y.stepsLeftAt place := by
  have one : (if Event.isOf place ⟨y, label, effects, z⟩ then 1 else 0) ≤ 1 := by split <;> decide
  unfold System.stepsLeftAt
  cases here : y.callers[place]? with
  | none =>
    have outside : y.callers.length ≤ place := List.getElem?_eq_none_iff.mp here
    have own : Event.isOf place ⟨y, label, effects, z⟩ = false := Bool.eq_false_iff.mpr fun own => by
      obtain ⟨caller, found⟩ := exists_of_isOf step own
      cases here.symm.trans found
    rw [own]
    cases there : z.callers[place]? with
    | none => exact Nat.le_refl 12
    | some next =>
      obtain ⟨call, now, _, _, rfl⟩ := step.called outside there
      exact stepsLeft_ofCall now call
  | some caller =>
    obtain ⟨next, there, ⟨rfl, other⟩ | ⟨now, _, expiry, _⟩ | ⟨now, w, _, acts, _⟩⟩ := step.advances here
    · simp [there, isOf_eq_false other]
    · have less := stepsLeft_expireOn expiry
      rw [there]
      simp only [Option.map_some, Option.getD_some]
      omega
    · have less := stepsLeft_acts acts
      rw [there]
      simp only [Option.map_some, Option.getD_some]
      omega

/-- However long a run is, each call takes at most twelve steps of its own. -/
theorem steps_bounded (run : Run (.build settings built) events y) (place : Nat) :
    events.countP (Event.isOf place) ≤ 12 := by
  have spent := run.countP_add_le (Event.isOf place) (fun s => s.stepsLeftAt place)
    fun e member => stepsLeftAt_step (System.step_sound (run.step_of_mem member)) place
  exact Nat.le_of_add_right_le spent

/-- A caller that has no answer yet can go on, at once or when its time is over. -/
theorem moves_on (here : y.callers[place]? = some caller) (pending : caller.isDone = false) :
    ∃ limit : Instant, ∀ now, limit ≤ now →
      (y.step (.act place now)).isSome = true ∨ (y.step (.expire place now)).isSome = true := by
  cases caller with
  | awaitingFlush limit | awaitingWorker d limit =>
    refine ⟨limit, fun now expiry => ?_⟩
    by_cases ran : place ∈ y.notified
    · exact .inl (by simp [System.step, System.actOn, here, ran])
    · exact .inr (by simp [System.step, System.expireOn, here, ran, expiry])
  | started | flushed | shutDown | panicked => cases pending
  | takingStarter next =>
    refine ⟨⟨0⟩, fun now _ => .inl ?_⟩
    cases starter : y.holdsStarter <;> simp [System.step, System.actOn, here, starter]
  | claiming d =>
    refine ⟨⟨0⟩, fun now _ => .inl ?_⟩
    by_cases running : y.state = .running <;> simp [System.step, System.actOn, here, running]
  | _ =>
    refine ⟨⟨0⟩, fun now _ => .inl ?_⟩
    simp [System.step, System.actOn, here, System.channelStep, Channel.System.step]

theorem hasGivenUp_acts (acts : System.Acts y place now caller z next effects)
    (gaveUp : caller.hasGivenUp = true) : next.hasGivenUp = true := by
  cases acts.leads with
  | announceLate | cancelExport | abandonChannel | giveNotice | panicOnNotice => rfl
  | _ => cases gaveUp

/-- A caller waits no longer only after it gave up, and never takes that back. -/
theorem hasGivenUp_of_expires (run : Run (.build settings built) events y)
    (expired : events.any (Event.expires place) = true) :
    ∃ caller, y.callers[place]? = some caller ∧ caller.hasGivenUp = true := by
  induction run with
  | nil => cases expired
  | @snoc events y z label effects run stepped ih =>
    have step := System.step_sound stepped
    rw [List.any_append, Bool.or_eq_true] at expired
    rcases expired with before | here
    · obtain ⟨caller, here, gaveUp⟩ := ih before
      obtain ⟨next, there, ⟨rfl, _⟩ | ⟨now, _, expiry, _⟩ | ⟨now, w, _, acts, _⟩⟩ := step.advances here
      · exact ⟨next, there, gaveUp⟩
      · rcases expireOn_cases expiry with ⟨limit, rfl, _⟩ | ⟨d, limit, rfl, _⟩ <;> cases gaveUp
      · exact ⟨next, there, hasGivenUp_acts acts gaveUp⟩
    · rw [List.any_cons, List.any_nil, Bool.or_false] at here
      cases step with
      | expire other now caller next found expiry =>
        obtain rfl : other = place := by simpa [Event.expires] using here
        refine ⟨next, List.getElem?_set_self (List.getElem?_eq_some_iff.mp found).1, ?_⟩
        rcases expireOn_cases expiry with ⟨limit, _, rfl⟩ | ⟨d, limit, _, rfl⟩ <;> rfl
      | _ => cases here

/-- What the answer of the caller that claimed the shutdown says. -/
theorem Drains.answer {expired : Bool} (drains : Drains expired d y caller)
    (done : caller.isDone = true) (patient : expired = true → caller.hasGivenUp = true) :
    ((∃ outcome, outcome ≠ .alreadyShutdown ∧ caller = .shutDown outcome) ∧ y.state = .stopped ↔
      d.isOnClock = true ∧
        (expired = true → y.settings.panicsOn (.drainTimedOut d.length) = false)) ∧
    (caller = .panicked ∧ y.state = .draining ∧ y.channel.shared.isOpen = false ↔
      d.isOnClock = false) := by
  cases caller with
  | shutDown outcome =>
    cases outcome with
    | alreadyShutdown => cases drains
    | timedOut =>
      obtain ⟨stopped, fits, calm⟩ := drains
      simp [stopped, fits, calm]
    | flushed | failed =>
      obtain ⟨stopped, fits⟩ := drains
      have waits : expired = false := Bool.eq_false_iff.mpr fun expiry => by cases patient expiry
      simp [stopped, fits, waits]
  | panicked =>
    rcases drains with ⟨draining, beyond, closed⟩ | ⟨stopped, fits, expiry, panics⟩
    · simp [draining, beyond, closed]
    · simp [stopped, fits, expiry, panics]
  | started | flushed => cases drains
  | _ => cases done

theorem length_step (step : System.Step y label z effects) :
    y.callers.length ≤ z.callers.length := by
  cases step with
  | call c now => simp
  | act place now caller next w effects found acts => simp [acts.callers]
  | expire => simp
  | _ => exact Nat.le_refl _

theorem not_mem_before {e : Event} (run : Run (.build settings built) (before ++ c :: after) y)
    (here : e.before.callers[c.before.callers.length]? = some caller) : e ∉ before := by
  intro earlier
  obtain ⟨left, right, rfl⟩ := List.append_of_mem earlier
  obtain ⟨_, stepped, rest⟩ := run.split.1.split
  have longer := ((rest.cons stepped).keeps (fun s => e.before.callers.length ≤ s.callers.length)
    (Nat.le_refl _) fun stepped le => Nat.le_trans le (length_step (System.step_sound stepped))).2
  exact absurd longer (Nat.not_le.mpr (List.getElem?_eq_some_iff.mp here).1)

/-- While the provider takes measurements nobody has claimed the shutdown. -/
theorem claim_not_mem_before {e : Event} (run : Run (.build settings built) (before ++ c :: after) y)
    {x : Exchange} (claim : x ∈ claims [e]) (accepting : c.before.state.isAccepting = true) :
    e ∉ before := by
  intro earlier
  obtain ⟨left, right, rfl⟩ := List.append_of_mem earlier
  obtain ⟨_, stepped, rest⟩ := run.split.1.split
  have draining := (claim_step (System.step_sound stepped) claim).2.1
  have closed := (closed_run rest (by rw [draining]; rfl)).2
  cases closed.symm.trans accepting

theorem mem_after {e : Event} (member : e ∈ before ++ c :: after) (late : e ∉ before)
    (acts : e.label = .act place now) (called : ∀ place now, c.label ≠ .act place now) :
    e ∈ after := by
  rcases List.mem_append.mp member with earlier | later
  · exact absurd earlier late
  · rcases List.mem_cons.mp later with rfl | later
    · exact absurd acts (called _ _)
    · exact later

/-- A shutdown that finds the provider not running overlaps with another call: one that has started
the worker and is yet to say so, or one that claimed the shutdown after this one was called. -/
theorem overlapped (run : Run (.build settings built) (before ++ c :: after) y)
    (called : ∀ place now, c.label ≠ .act place now) (accepting : c.before.state.isAccepting = true)
    (kept : ∀ e ∈ before ++ c :: after, e.label ≠ .discardStarter)
    (timely : ∀ e ∈ before ++ c :: after, Event.isTimely e = true) {x : Exchange}
    (exchanged : x ∈ (before ++ c :: after).flatMap Event.exchanges)
    (place : x.place = c.before.callers.length) (found : x.found ≠ .running) :
    Overlapped x.place after := by
  obtain ⟨e, member, exchange⟩ := List.mem_flatMap.mp exchanged
  obtain ⟨⟨now, acts⟩, here, state⟩ := mem_exchanges.mp exchange
  have later : e ∈ after := mem_after member (not_mem_before run (place ▸ here)) acts called
  obtain ⟨left, right, rfl⟩ := List.append_of_mem later
  have whole : before ++ c :: (left ++ e :: right) = (before ++ c :: left) ++ e :: right := by simp
  rw [whole] at run kept timely
  obtain ⟨earlier, _, _⟩ := run.split
  -- An idle provider has given its starter to another caller, any other one is shut down by one.
  by_cases idle : e.before.state = .idle
  · have starting := Starting.of_run earlier fun g member => kept g (List.mem_append_left _ member)
    obtain ⟨q, next, announcing⟩ := starting.taken idle (starting.claiming idle _ _ here)
    refine ⟨e, later, q, _, ?_, announcing, .inl ⟨next, rfl⟩⟩
    rintro rfl
    cases announcing.symm.trans here
  · have closed : e.before.state.isAccepting = false := by
      rw [state] at found
      generalize e.before.state = state at idle found
      cases state with
      | idle => exact absurd rfl idle
      | running => exact absurd rfl found
      | draining | stopped => rfl
    rcases Claimed.of_run earlier fun g member => timely g (List.mem_append_left _ member) with
      ⟨_, accepting⟩ | ⟨w, owner, one, there, drains, _⟩
    · cases closed.symm.trans accepting
    · obtain ⟨running, g, member, claim⟩ := mem_claims.mp (one ▸ List.mem_singleton_self w)
      obtain ⟨⟨_, acts⟩, claiming, _⟩ := mem_exchanges.mp claim
      have late := claim_not_mem_before earlier
        (mem_claims.mpr ⟨running, g, List.mem_singleton_self g, claim⟩) accepting
      have after := mem_after member late acts called
      refine ⟨g, List.mem_append_left _ after, w.place, _, fun same => ?_, claiming, .inr ⟨_, rfl⟩⟩
      rw [same, here] at there
      cases there
      exact drains

/-- A shutdown of a provider that still takes measurements, whatever the provider holds, the
exporter does and the other callers do, takes at most twelve steps of its own and is never stuck for
longer than its wait. Unless it overlaps with another call and returns that the provider was shut
down before, it returns an outcome and leaves the provider stopped exactly where the clock can show
the end of its deadline, and the diagnostics do not panic at the notice of a drain that took too
long. Where the clock cannot, and only there, it panics and leaves the provider draining for good,
with its channel closed. -/
theorem shutDown_completes_iff (run : Run (.build settings built) (before ++ c :: after) y)
    {length : Duration} {since : Instant} (called : c.label = .call (.shutDown length) since)
    (accepting : c.before.state.isAccepting = true)
    (kept : ∀ e ∈ before ++ c :: after, e.label ≠ .discardStarter)
    (timely : ∀ e ∈ before ++ c :: after, Event.isTimely e = true) :
    let place := c.before.callers.length
    let fits := (⟨length, since⟩ : Deadline).isOnClock
    (before ++ c :: after).countP (Event.isOf place) ≤ 12 ∧
    ∃ caller, y.callers[place]? = some caller ∧
      (caller.isDone = false → ∃ limit : Instant, ∀ now, limit ≤ now →
        (y.step (.act place now)).isSome = true ∨ (y.step (.expire place now)).isSome = true) ∧
      (caller.isDone = true →
        caller = .shutDown .alreadyShutdown ∧ Overlapped place after ∨
        ((∃ outcome, outcome ≠ .alreadyShutdown ∧ caller = .shutDown outcome) ∧ y.state = .stopped ↔
          fits = true ∧ ((before ++ c :: after).any (Event.expires place) = true →
            settings.panicsOn (.drainTimedOut length) = false)) ∧
        (caller = .panicked ∧ y.state = .draining ∧ y.channel.shared.isOpen = false ↔
          fits = false)) := by
  intro place fits
  refine ⟨steps_bounded run place, ?_⟩
  have asking : (place, ⟨length, since⟩) ∈ (before ++ c :: after).flatMap Event.shutdowns :=
    List.mem_flatMap.mpr ⟨c, by simp, mem_shutdowns.mpr ⟨called, rfl⟩⟩
  obtain ⟨caller, here, answer⟩ := (Asked.of_run run).answered _ asking
  refine ⟨caller, here, moves_on here, fun done => ?_⟩
  rcases answer with approaches | ⟨already, found, other, exchanged⟩ | claim
  · cases done.symm.trans (isDone_of_approaches approaches)
  · refine .inl ⟨already, ?_⟩
    exact overlapped run (by simp [called]) accepting kept timely exchanged rfl other
  · right
    rcases Claimed.of_run run timely with ⟨none, _⟩ | ⟨x, owner, one, there, drains, _⟩
    · rw [none] at claim
      cases claim
    · rw [one, List.mem_singleton] at claim
      subst claim
      cases here.symm.trans there
      have same : y.settings = settings := settings_run run
      rw [← same]
      refine drains.answer done fun expired => ?_
      obtain ⟨waiting, same, gaveUp⟩ := hasGivenUp_of_expires run expired
      cases here.symm.trans same
      exact gaveUp

/-- The worker never runs, and the time of the shutdown is over at once. -/
def hasty : List Label :=
  [.record ⟨⟨0, "requests", .counter, none, none, .ofName "test", none⟩, .increment 1, .empty, ⟨.zero⟩⟩,
    .send 0, .call (.shutDown .zero) ⟨0⟩] ++ List.replicate 7 (.act 0 ⟨0⟩) ++ [.expire 0 ⟨0⟩] ++
    List.replicate 4 (.act 0 ⟨0⟩)

theorem shutDown_completes_iff_hasty :
    let first : System := .build {} ⟨.zero⟩
    let y := endOf first (follow System.step first hasty)
    (∃ outcome, outcome ≠ .alreadyShutdown ∧ y.callers[0]? = some (.shutDown outcome)) ∧
      y.state = .stopped := by
  intro first y
  have run := run_follow System.step first hasty
  have split : follow System.step first hasty = (follow System.step first hasty).take 2 ++
      (follow System.step first hasty).get ⟨2, by decide +kernel⟩ ::
        (follow System.step first hasty).drop 3 := by simp
  have kept : ∀ e ∈ follow System.step first hasty, e.label ≠ .discardStarter := by
    intro e member discards
    have there := label_mem_of_mem_follow member
    rw [discards] at there
    simp [hasty] at there
  rw [split] at run kept
  obtain ⟨_, caller, here, _, answer⟩ := shutDown_completes_iff run rfl (by decide +kernel) kept
    (by decide +kernel)
  rw [← split] at here answer
  have place :
      ((follow System.step first hasty).get ⟨2, by decide +kernel⟩).before.callers.length = 0 := by
    decide +kernel
  rw [place] at here answer
  have returned : y.callers[0]? = some (.shutDown .timedOut) := by decide +kernel
  cases here.symm.trans returned
  rcases answer rfl with ⟨already, _⟩ | ⟨ends, _⟩
  · cases already
  · obtain ⟨⟨outcome, other, same⟩, stopped⟩ := ends.mpr ⟨by decide +kernel, fun _ => rfl⟩
    exact ⟨⟨outcome, other, same ▸ returned⟩, stopped⟩

/-- The longest deadline, of a shutdown that finds the provider idle. -/
def beyondClock : List Label := .call (.shutDown .max) ⟨0⟩ :: List.replicate 7 (.act 0 ⟨0⟩)

theorem shutDown_panics :
    let first : System := .build {} ⟨.zero⟩
    let y := endOf first (follow System.step first beyondClock)
    y.callers[0]? = some .panicked ∧ y.state = .draining ∧ y.channel.shared.isOpen = false := by
  intro first y
  refine ⟨?_, ?_, ?_⟩
  · decide +kernel
  · decide +kernel
  · decide +kernel

end Telemetry.Provider
