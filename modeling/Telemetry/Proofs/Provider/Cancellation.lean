import Telemetry.Proofs.Provider.Waiting
import Telemetry.Proofs.Provider.Windows

/-! What a shutdown that times out makes of the exports. Before it returns it cancels them, and from
then on no exporter is asked and no export succeeds. Main result: `exists_cancellation`. -/
namespace Telemetry.Provider

/-- Whether the caller has cancelled the exports, as the deadline of its shutdown was over. -/
def Caller.hasCancelled : Caller → Bool
  | abandoningChannel _ | givingNotice _ | shutDown .timedOut => true
  | _ => false

/-- The attempt is at hand, and cancelled when the worker looks at it next, whatever the exporter
would answer. -/
def EndsCancelled (a : Attempt) (y : System) : Prop :=
  y.attempt = some a ∧ ∀ reply, ∃ z effects, y.step (.poll reply) = some (z, effects) ∧
    Event.ended ⟨y, .poll reply, effects, z⟩ = [(a, .error .cancelled)]

/-- From the state on no exporter is asked: what it would answer makes no difference. No attempt
succeeds, and each one ends cancelled, or as the exporter panics on being called. -/
structure Silenced (first : System) (events : List Event) (y : System) : Prop where
  unasked : ∀ e ∈ events, ∀ reply other,
    e.before.step (.poll reply) = e.before.step (.poll other)
  ended : ∀ e ∈ events, ∀ a result, (a, result) ∈ Event.ended e →
    result = .error .cancelled ∨ result = .error .panicked ∧ ∃ now order, e.label = .collect now order true
  uncounted : y.counters.succeeded = first.counters.succeeded
  begun : ∀ left e right, events = left ++ e :: right → ∀ a ∈ Event.attempts e,
    (∃ d ∈ e :: right, ∃ result, (a, result) ∈ Event.ended d) ∨ EndsCancelled a y

variable {first y z : System} {label : Label} {effects : List Effect} {events : List Event}
  {place : Nat} {now : Instant} {caller next : Caller} {a : Attempt}
  {settings : Settings} {built : Timestamp}

theorem isCancelled_noteEnd (result : Except ExportError Unit) :
    (y.settings.noteEnd y.drain a result).isCancelled = y.drain.isCancelled := by
  cases result with
  | ok => simp only [Settings.noteEnd, Drain.note]; split <;> rfl
  | error e =>
    simp only [Settings.noteEnd, Drain.note]
    split
    · rfl
    · split <;> rfl

theorem succeeded_ended_error (c : Counters) (e : ExportError) :
    (c.ended (.error e)).succeeded = c.succeeded := by
  simp only [Counters.ended]
  split <;> rfl

theorem resultOf_cancelled (cancelled : y.drain.isCancelled = true) (reply : Reply) :
    y.resultOf reply = .error .cancelled := if_pos cancelled

/-- No step takes a cancellation back, and none counts a success after it. -/
theorem cancelled_step (step : System.Step y label z effects)
    (cancelled : y.drain.isCancelled = true) :
    z.drain.isCancelled = true ∧ z.counters.succeeded = y.counters.succeeded := by
  cases step with
  | act place now caller next w effects found acts =>
    cases acts with
    | cancelExport => exact ⟨rfl, rfl⟩
    | _ => exact ⟨cancelled, rfl⟩
  | collectFailed =>
    exact ⟨(isCancelled_noteEnd _).trans cancelled, succeeded_ended_error _ _⟩
  | poll reply =>
    refine ⟨(isCancelled_noteEnd _).trans cancelled, ?_⟩
    rw [resultOf_cancelled cancelled]
    exact succeeded_ended_error _ _
  | _ => exact ⟨cancelled, rfl⟩

/-- How an attempt ends once exports are cancelled. -/
theorem ended_cancelled {result : Except ExportError Unit} (cancelled : y.drain.isCancelled = true)
    (ended : (a, result) ∈ Event.ended ⟨y, label, effects, z⟩) :
    result = .error .cancelled ∨ result = .error .panicked ∧ ∃ now order, label = .collect now order true := by
  cases label with
  | poll reply =>
    obtain ⟨_, _, same⟩ := List.mem_map.mp ended
    cases same
    exact .inl (resultOf_cancelled cancelled reply)
  | collect now order panics =>
    cases panics with
    | false => cases ended
    | true =>
      obtain ⟨_, _, same⟩ := List.mem_map.mp ended
      cases same
      exact .inr ⟨rfl, now, order, rfl⟩
  | _ => cases ended

/-- An attempt stays at hand until it comes to its end. -/
theorem attempt_step (engaged : y.IsEngaged) (step : System.Step y label z effects)
    (attempt : y.attempt = some a) :
    z.attempt = some a ∨ ∃ result, (a, result) ∈ Event.ended ⟨y, label, effects, z⟩ := by
  obtain ⟨watchers, running⟩ := engaged a attempt
  cases calm : label.isQuiet with
  | true => exact .inl ((quiet_step step calm).attempt.trans attempt)
  | false =>
    cases step with
    | collectBegun _ _ _ _ _ _ phase | collectFailed _ _ _ _ _ _ _ _ phase
    | collectBroken _ _ _ _ _ _ _ _ _ phase => cases phase.symm.trans running
    | poll reply b c done hand =>
      cases hand.symm.trans attempt
      exact .inr ⟨y.resultOf reply, by simp [Event.ended, attempt]⟩
    | decide => exact .inl attempt
    | _ => cases calm

theorem attempt_run (run : Run first events y) (engaged : first.IsEngaged)
    (attempt : first.attempt = some a) :
    y.attempt = some a ∨ ∃ e ∈ events, ∃ result, (a, result) ∈ Event.ended e := by
  induction run with
  | nil => exact .inl attempt
  | @snoc events y z label effects run stepped ih =>
    rcases ih with waits | ⟨e, member, ended⟩
    · have still : y.IsEngaged := (run.keeps System.IsEngaged engaged
        fun stepped engaged => engaged.step (System.step_sound stepped)).2
      refine (attempt_step still (System.step_sound stepped) waits).imp_right fun ended => ?_
      exact ⟨⟨y, label, effects, z⟩, by simp, ended⟩
    · exact .inr ⟨e, by simp [member], ended⟩

/-- An attempt that begins is at hand, unless the exporter panics on being called. -/
theorem attempt_begun (step : System.Step y label z effects)
    (begun : a ∈ Event.attempts ⟨y, label, effects, z⟩) :
    z.attempt = some a ∨ (a, .error .panicked) ∈ Event.ended ⟨y, label, effects, z⟩ := by
  obtain ⟨now, order, panics, data, watchers, dropped, rfl, _, _, one⟩ := attempts_step step begun
  cases panics with
  | true => exact .inr (List.mem_map.mpr ⟨a, begun, rfl⟩)
  | false =>
    cases step with
    | collectBegun _ _ _ b =>
      rw [attempts_collectBegun, List.singleton_inj] at one
      exact .inl (congrArg some one)
    | collectBroken =>
      rw [attempts_collectBroken] at one
      cases one

/-- Whatever the exporter would answer, a cancelled attempt at hand ends as it is looked at. -/
theorem endsCancelled (engaged : y.IsEngaged) (cancelled : y.drain.isCancelled = true)
    (attempt : y.attempt = some a) : EndsCancelled a y := by
  refine ⟨attempt, fun reply => ?_⟩
  obtain ⟨watchers, phase⟩ := engaged a attempt
  have possible : (y.step (.poll reply)).isSome = true := by
    simp [System.step, attempt, System.conclude, System.channelStep, Channel.System.step, phase]
  obtain ⟨⟨z, effects⟩, stepped⟩ := Option.isSome_iff_exists.mp possible
  refine ⟨z, effects, stepped, ?_⟩
  simp [Event.ended, attempt, resultOf_cancelled cancelled]

theorem silenced (run : Run first events y) (engaged : first.IsEngaged)
    (cancelled : first.drain.isCancelled = true) : Silenced first events y := by
  have kept := run.keeps
    (fun s => s.drain.isCancelled = true ∧ s.counters.succeeded = first.counters.succeeded)
    ⟨cancelled, rfl⟩ fun stepped ⟨before, count⟩ => by
      have after := cancelled_step (System.step_sound stepped) before
      exact ⟨after.1, after.2.trans count⟩
  constructor
  · intro e member reply other
    have same : e.before.resultOf reply = e.before.resultOf other := by
      rw [resultOf_cancelled (kept.1 e member).1, resultOf_cancelled (kept.1 e member).1]
    simp only [System.step, same]
  · exact fun e member a result => ended_cancelled (kept.1 e member).1
  · exact kept.2.2
  · rintro left e right rfl a begun
    obtain ⟨before, stepped, rest⟩ := run.split
    have reached : ∀ {more s}, Run first more s → s.IsEngaged := fun run =>
      (run.keeps System.IsEngaged engaged fun stepped engaged =>
        engaged.step (System.step_sound stepped)).2
    rcases attempt_begun (System.step_sound stepped) begun with hand | broken
    · rcases attempt_run rest (reached (.snoc before stepped)) hand with still | ⟨d, member, ended⟩
      · exact .inr (endsCancelled (reached run) kept.2.1 still)
      · exact .inl ⟨d, List.mem_cons_of_mem e member, ended⟩
    · exact .inl ⟨e, List.mem_cons_self, _, broken⟩

/-- The caller that cancels is the one whose wait was in vain. -/
theorem cancels_acts (acts : System.Acts y place now caller z next effects)
    (before : caller.hasCancelled = false) (after : next.hasCancelled = true) :
    ∃ d, caller = .cancellingExport d ∧ z.drain.isCancelled = true := by
  cases acts.leads with
  | cancelExport d =>
    cases acts
    exact ⟨d, rfl, rfl⟩
  | abandonChannel | giveNotice => cases before
  | _ => cases after

/-- A shutdown that has claimed the provider and has timed out has cancelled the exports, and from
that step on they are silenced. -/
theorem exists_cancellation {x : Exchange} (run : Run (.build settings built) events y)
    (claimed : x ∈ claims events) (returned : y.callers[x.place]? = some (.shutDown .timedOut)) :
    ∃ left c right now, events = left ++ c :: right ∧ c.label = .act x.place now ∧
      c.before.callers[x.place]? = some (.cancellingExport x.deadline) ∧
      Silenced c.after right y := by
  obtain ⟨left, claim, more, rfl, rest, begun, serving, _⟩ := exists_claim run claimed
  have fresh (now : Instant) (call : Call) : ¬(Caller.ofCall now call).hasCancelled = true := by
    cases call <;> exact nofun
  have start (c : Caller) (found : claim.after.callers[x.place]? = some c) :
      ¬c.hasCancelled = true := by
    cases begun.symm.trans found
    exact nofun
  obtain ⟨between, c, right, rfl, caller, next, before, still, cancels, goes⟩ :=
    exists_crossing fresh rest start returned rfl
  obtain ⟨_, same, serves⟩ := serving c (by simp)
  cases before.symm.trans same
  rcases goes with ⟨now, _, expiry⟩ | ⟨now, w, label, acts, after⟩
  · rcases expireOn_cases expiry with ⟨_, _, rfl⟩ | ⟨_, _, _, rfl⟩ <;> cases cancels
  · obtain ⟨d, rfl, cancelled⟩ := cancels_acts acts (Bool.eq_false_iff.mpr still) cancels
    cases serves
    obtain ⟨upTo, claiming, _⟩ := run.split
    obtain ⟨earlier, stepped, following⟩ := rest.split
    have whole : Run (.build settings built) (left ++ claim :: between ++ [c]) c.after :=
      .snoc (upTo.trans (earlier.cons claiming)) stepped
    refine ⟨left ++ claim :: between, c, right, now, by simp, label, before, ?_⟩
    exact silenced following (engaged_of_run whole) (by rw [after]; exact cancelled)

end Telemetry.Provider
