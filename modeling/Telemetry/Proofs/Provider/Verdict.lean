import Telemetry.Proofs.Provider.Callers
import Telemetry.Proofs.Provider.Windows

/-! The verdict of a drain. The drain holds the failure of the last attempt that it took note of,
until the owner of the shutdown reads it. Main result: `Verdict.of_run`. -/
namespace Telemetry.Provider

/-- What the drain notes of the attempt that comes to an end. It notes nothing before it began,
and no failure at whose notice the diagnostics panic. -/
def Event.noted (e : Event) : List (Except ExportError Unit) :=
  if e.before.drain.isDraining then
    (ended e).filterMap fun (a, result) =>
      if !result.isOk && e.before.settings.panicsOn (a.noticeOf result) then none else some result
  else []

def failureOf : Except ExportError Unit → Option ExportError
  | .ok () => none
  | .error e => some e

/-- The failure of the last attempt noted, if it failed. -/
def standing (events : List Event) : Option ExportError :=
  (events.flatMap Event.noted).getLast?.bind failureOf

/-- The outcome of a shutdown that has read the given failure. -/
def verdictOf (failure : Option ExportError) : ShutdownOutcome :=
  (failure.map .failed).getD .flushed

variable {y z : System} {label : Label} {effects : List Effect} {events : List Event}
  {settings : Settings} {built : Timestamp}

theorem standing_concat {e : Event} (none : Event.noted e = []) :
    standing (events ++ [e]) = standing events := by
  simp [standing, none]

theorem noted_step (step : System.Step y label z effects) {result : Except ExportError Unit}
    (noted : result ∈ Event.noted ⟨y, label, effects, z⟩) :
    Event.noted ⟨y, label, effects, z⟩ = [result] := by
  unfold Event.noted at noted ⊢
  split at noted
  · next draining =>
    obtain ⟨ending, ended, heard⟩ := List.mem_filterMap.mp noted
    rw [if_pos draining, ended_step step ended]
    simp only [List.filterMap_cons, List.filterMap_nil, heard]
  · cases noted

/-- Where no failure stands, a success came after each failure that was noted. -/
theorem replaced_of_standing {first : System} {left right : List Event} {e : Event}
    (run : Run first (left ++ e :: right) y) (calm : standing (left ++ e :: right) = none)
    {error : ExportError} (noted : .error error ∈ Event.noted e) :
    ∃ d ∈ right, .ok () ∈ Event.noted d := by
  have one : Event.noted e = [.error error] := noted_step (System.step_sound run.split.2.1) noted
  rcases List.eq_nil_or_concat (right.flatMap Event.noted) with empty | ⟨others, last, whole⟩
  · simp [standing, one, empty, failureOf] at calm
  · have success : last = .ok () := by
      cases last with
      | ok => rfl
      | error error => simp [standing, whole, failureOf] at calm
    have member : last ∈ right.flatMap Event.noted := by simp [whole]
    obtain ⟨d, later, noted⟩ := List.mem_flatMap.mp member
    exact ⟨d, later, success ▸ noted⟩

/-- What the drain holds after the end of an attempt. -/
theorem standing_ended {a : Attempt} {result : Except ExportError Unit}
    (held : y.drain.failure = standing events)
    (ended : Event.ended ⟨y, label, effects, z⟩ = [(a, result)]) :
    (y.settings.noteEnd y.drain a result).failure =
      standing (events ++ [⟨y, label, effects, z⟩]) := by
  cases draining : y.drain.isDraining with
  | false =>
    have none : Event.noted ⟨y, label, effects, z⟩ = [] := by simp [Event.noted, draining]
    have same : y.settings.noteEnd y.drain a result = y.drain := by
      cases result <;> simp [Settings.noteEnd, Drain.note, draining]
    rw [standing_concat none, same, held]
  | true =>
    cases result with
    | ok =>
      have noted : Event.noted ⟨y, label, effects, z⟩ = [.ok ()] := by
        simp [Event.noted, draining, ended, Except.isOk, Except.toBool]
      simp [standing, noted, failureOf, Settings.noteEnd, Drain.note, draining]
    | error error =>
      by_cases panics : y.settings.panicsOn (a.noticeOf (.error error)) = true
      · have none : Event.noted ⟨y, label, effects, z⟩ = [] := by
          simp [Event.noted, draining, ended, panics, Except.isOk, Except.toBool]
        rw [standing_concat none, Settings.noteEnd, if_pos panics, held]
      · have noted : Event.noted ⟨y, label, effects, z⟩ = [.error error] := by
          simp [Event.noted, draining, ended, panics, Except.isOk, Except.toBool]
        simp [standing, noted, failureOf, Settings.noteEnd, Drain.note, draining, panics]

/-- What a run keeps of its drain. -/
structure Verdict (events : List Event) (y : System) : Prop where
  pending : (∀ (p : Nat) (c : Caller), y.callers[p]? = some c → c.hasReadFailure = false) →
    y.drain.failure = standing events
  read : ∀ (p : Nat) (c : Caller), y.callers[p]? = some c → c.hasReadFailure = true →
    c = .shutDown (verdictOf (standing events))

namespace Verdict

theorem start (settings : Settings) (built : Timestamp) : Verdict [] (.build settings built) where
  pending _ := rfl
  read p c found := by cases found

theorem exited (run : Run (.build settings built) events y) {p : Nat} {c : Caller}
    (found : y.callers[p]? = some c) (read : c.hasReadFailure = true) :
    y.channel.receiver.phase = .exited :=
  Channel.exited_of_stopped (channelRun run) rfl
    ((Orderly.of_run run).stopped p c found (Caller.hasSeenStop_of_hasReadFailure read))

/-- Attempts begin, end and are made again only while the worker is there. -/
theorem not_exited (step : System.Step y label z effects) (busy : label.isQuiet = false) :
    y.channel.receiver.phase ≠ .exited := by
  intro exited
  cases step with
  | collectBegun _ _ _ _ _ _ phase | collectFailed _ _ _ _ _ _ _ _ phase
  | collectBroken _ _ _ _ _ _ _ _ _ phase => cases phase.symm.trans exited
  | poll reply a c done attempt part =>
    obtain ⟨watchers, phase⟩ := Channel.phase_settle (Channel.System.step_sound part)
    cases phase.symm.trans exited
  | decide c done part =>
    obtain ⟨b, watchers, phase⟩ := Channel.phase_decide (Channel.System.step_sound part)
    cases phase.symm.trans exited
  | _ => cases busy

/-- Between attempts only the owner of the shutdown touches the failure, when it reads it. -/
theorem failure_step (step : System.Step y label z effects) (calm : label.isQuiet = true) :
    z.drain.failure = y.drain.failure ∨ ∃ place : Nat,
      z.callers[place]? = some (.shutDown (verdictOf y.drain.failure)) := by
  cases step with
  | act place now caller next w effects found acts =>
    cases acts with
    | readFailure =>
      exact .inr ⟨place, List.getElem?_set_self (List.getElem?_eq_some_iff.mp found).1⟩
    | _ => exact .inl rfl
  | collectBegun | collectFailed | collectBroken | poll | decide => cases calm
  | _ => exact .inl rfl

theorem hasReadFailure_verdictOf (failure : Option ExportError) :
    (Caller.shutDown (verdictOf failure)).hasReadFailure = true := by
  cases failure <;> rfl

theorem pending_quiet (verdict : Verdict events y) (step : System.Step y label z effects)
    (calm : label.isQuiet = true)
    (unread : ∀ (p : Nat) (c : Caller), z.callers[p]? = some c → c.hasReadFailure = false) :
    z.drain.failure = standing events := by
  rcases failure_step step calm with same | ⟨place, reads⟩
  · rw [same]
    refine verdict.pending fun p c found => ?_
    cases read : c.hasReadFailure with
    | false => rfl
    | true =>
      have done : c.isDone = true := by
        cases c with
        | shutDown => rfl
        | _ => cases read
      exact read.symm.trans (unread p c (step.isDone found done))
  · cases (hasReadFailure_verdictOf _).symm.trans (unread place _ reads)

theorem read_quiet (verdict : Verdict events y) (orderly : Orderly y)
    (step : System.Step y label z effects) {p : Nat} {c : Caller} (found : z.callers[p]? = some c)
    (read : c.hasReadFailure = true) : c = .shutDown (verdictOf (standing events)) := by
  rcases step.found found with same | ⟨now, call, rfl⟩ | ⟨caller, there, ⟨now, expired⟩ | moved⟩
  · exact verdict.read p c same read
  · cases call <;> cases read
  · rcases expireOn_cases expired with ⟨limit, _, rfl⟩ | ⟨d, limit, _, rfl⟩ <;> cases read
  · obtain ⟨now, w, rfl, acts, rfl⟩ := moved
    obtain rfl := acts.hasReadFailure read
    -- Only the owner reads the failure, and it has not answered yet.
    have unread : y.drain.failure = standing events := by
      refine verdict.pending fun q d other => Bool.eq_false_iff.mpr fun reader => ?_
      have owner := Caller.isOwner_of_isPatient
        (Caller.isPatient_of_hasSeenStop (Caller.hasSeenStop_of_hasReadFailure reader))
      obtain rfl := (orderly.owner p _ there rfl).2 q d other owner
      cases there.symm.trans other
      cases reader
    cases acts
    rw [← unread]
    rfl

/-- While attempts are made nobody has read the failure yet. -/
theorem busy (verdict : Verdict events y) (run : Run (.build settings built) events y)
    (step : System.Step y label z effects) (busy : label.isQuiet = false)
    (callers : z.callers = y.callers)
    (held : y.drain.failure = standing events →
      z.drain.failure = standing (events ++ [⟨y, label, effects, z⟩])) :
    Verdict (events ++ [⟨y, label, effects, z⟩]) z := by
  constructor
  · intro unread
    rw [callers] at unread
    exact held (verdict.pending unread)
  · intro p c found read
    rw [callers] at found
    exact absurd (exited run found read) (not_exited step busy)

theorem step (verdict : Verdict events y) (run : Run (.build settings built) events y)
    (step : System.Step y label z effects) : Verdict (events ++ [⟨y, label, effects, z⟩]) z := by
  cases calm : label.isQuiet with
  | true =>
    have none : Event.noted ⟨y, label, effects, z⟩ = [] := by
      simp [Event.noted, (quiet_step step calm).ended]
    constructor
    · rw [standing_concat none]
      exact verdict.pending_quiet step calm
    · rw [standing_concat none]
      exact fun p c => verdict.read_quiet (Orderly.of_run run) step
  | false =>
    have whole := step
    cases step with
    | collectBegun now data watchers a dropped worker phase prepared kept =>
      refine verdict.busy run whole calm rfl fun held => ?_
      rw [standing_concat (by simp [Event.noted, Event.ended])]
      exact held
    | collectFailed now data watchers a dropped worker c done phase prepared kept part =>
      refine verdict.busy run whole calm rfl fun held => ?_
      exact standing_ended held (ended_collectFailed dropped a _ done)
    | collectBroken now panics data watchers a dropped worker c done phase prepared lost panicked part =>
      refine verdict.busy run whole calm rfl fun held => ?_
      rw [standing_concat (by cases panics <;> simp [Event.noted, Event.ended, attempts_collectBroken])]
      exact held
    | poll reply a c done attempt part =>
      refine verdict.busy run whole calm rfl fun held => ?_
      exact standing_ended held (by simp [Event.ended, attempt])
    | decide c done part =>
      refine verdict.busy run whole calm rfl fun held => ?_
      rw [standing_concat (by simp [Event.noted, Event.ended])]
      exact held
    | _ => cases calm

theorem of_run (run : Run (.build settings built) events y) : Verdict events y := by
  induction run with
  | nil => exact start settings built
  | snoc run stepped ih => exact ih.step run (System.step_sound stepped)

end Verdict
end Telemetry.Provider
