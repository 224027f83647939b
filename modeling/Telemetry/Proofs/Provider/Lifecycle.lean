import Telemetry.Proofs.Channel.Progress
import Telemetry.Proofs.Provider.Callers
import Telemetry.Proofs.Provider.Windows

/-! The life of a provider, whatever the order in which its callers take their steps. One shutdown
at most finds it running and moves it to draining, and what becomes of the provider is up to that
caller from then on. Main results: `Claimed.of_run`, `Asked.of_run` and `lifecycle_one_way`. -/
namespace Telemetry.Provider

/-- Whether the clock can show the end of the deadline. -/
def Deadline.isOnClock (d : Deadline) : Bool := (d.since.add? d.length).isSome

/-- A shutdown tries to move the provider from running to draining. -/
structure Exchange where
  place : Nat
  deadline : Deadline
  found : State
deriving DecidableEq, Repr

namespace Event

/-- The shutdown that is called, by the place of its caller. -/
def shutdowns (e : Event) : List (Nat × Deadline) :=
  match e.label with
  | .call (.shutDown length) since => [(e.before.callers.length, ⟨length, since⟩)]
  | _ => []

def exchanges (e : Event) : List Exchange :=
  match e.label with
  | .act place _ =>
    match e.before.callers[place]? with
    | some (.claiming d) => [⟨place, d, e.before.state⟩]
    | _ => []
  | _ => []

/-- Whether the caller at the place waits no longer. -/
def expires (place : Nat) (e : Event) : Bool :=
  match e.label with
  | .expire other _ => other == place
  | _ => false

def startsWorker (e : Event) : Bool :=
  match e.label with
  | .act _ _ => e.before.holdsStarter && !e.after.holdsStarter
  | _ => false

/-- A caller that closes the channel reads no time before that of its call, and none that is
beyond the clock. -/
def isTimely (e : Event) : Bool :=
  match e.label with
  | .act place now =>
    match e.before.callers[place]? with
    | some (.closingChannel d) => decide (d.since ≤ now) && (now.add? .zero).isSome
    | _ => true
  | _ => true

end Event

/-- The exchanges that find the provider running. -/
def claims (events : List Event) : List Exchange :=
  (events.flatMap Event.exchanges).filter fun x => x.found = .running

/-- Whether the caller has yet to try to move the provider to draining. -/
def Caller.approaches (d : Deadline) : Caller → Bool
  | checkingState e | takingStarter (some e) | announcing (some e) | claiming e => e = d
  | _ => false

variable {y z : System} {label : Label} {effects : List Effect} {events : List Event}
  {place : Nat} {now : Instant} {caller next : Caller} {d : Deadline}
  {settings : Settings} {built : Timestamp}

theorem add?_isSome {t : Instant} {length : Duration} : (t.add? length).isSome = true ↔
    t.nanos + length.nanos < 0x8000000000000000 * Duration.nanosPerSecond := by
  unfold Instant.add?
  split <;> simp_all

/-- What is left of a deadline ends with it, or at once. -/
theorem remaining_isOnClock (later : d.since ≤ now) (shown : (now.add? .zero).isSome = true) :
    (now.add? (d.remaining now)).isSome = d.isOnClock := by
  rw [Bool.eq_iff_iff, Deadline.isOnClock, add?_isSome, add?_isSome]
  rw [add?_isSome] at shown
  have le : d.since.nanos ≤ now.nanos := later
  simp only [Deadline.remaining, Duration.remaining, Instant.since, Duration.zero] at shown ⊢
  omega

theorem System.Step.isOpen (step : System.Step y label z effects)
    (closed : y.channel.shared.isOpen = false) :
    z.channel.shared.isOpen = false :=
  ((channelRun_step step).keeps (fun c => c.shared.isOpen = false) closed
    fun stepped => Channel.isOpen_step (Channel.System.step_sound stepped)).2

/-- How far the caller has come that moved the provider to draining, and what holds then. -/
def Drains (expired : Bool) (d : Deadline) (y : System) : Caller → Prop
  | .announcingDrain e | .watchingWorker e | .closingChannel e => e = d ∧ y.state = .draining
  | .awaitingWorker e _ => e = d ∧ y.state = .draining ∧ d.isOnClock = true
  | .announcingStop e inTime =>
    e = d ∧ y.state = .draining ∧ d.isOnClock = true ∧ (inTime || expired) = true
  | .cancellingExport e | .abandoningChannel e | .givingNotice e =>
    e = d ∧ y.state = .stopped ∧ d.isOnClock = true ∧ expired = true
  | .shutDown .timedOut => y.state = .stopped ∧ d.isOnClock = true ∧
      y.settings.panicsOn (.drainTimedOut d.length) = false
  | .readingFailure | .shutDown .flushed | .shutDown (.failed _) =>
    y.state = .stopped ∧ d.isOnClock = true
  | .panicked =>
    y.state = .draining ∧ d.isOnClock = false ∧ y.channel.shared.isOpen = false ∨
      y.state = .stopped ∧ d.isOnClock = true ∧ expired = true ∧
        y.settings.panicsOn (.drainTimedOut d.length) = true
  | _ => False

namespace Drains

variable {expired : Bool}

theorem closed (drains : Drains expired d y caller) : y.state.isAccepting = false := by
  cases caller with
  | panicked => rcases drains with ⟨state, _⟩ | ⟨state, _⟩ <;> rw [state] <;> rfl
  | shutDown outcome => cases outcome <;> simp_all [Drains, State.isAccepting]
  | _ => simp_all [Drains, State.isAccepting]

/-- Steps that leave the state alone, and let no one in, leave the caller where it is. -/
theorem frame (drains : Drains expired d y caller) (state : z.state = y.state)
    (settings : z.settings = y.settings)
    (closed : y.channel.shared.isOpen = false → z.channel.shared.isOpen = false) :
    Drains expired d z caller := by
  cases caller with
  | panicked =>
    simp only [Drains, state, settings] at drains ⊢
    exact drains.imp_left fun ⟨draining, beyond, shut⟩ => ⟨draining, beyond, closed shut⟩
  | shutDown outcome => cases outcome <;> simp_all [Drains]
  | _ => simp_all [Drains]

theorem mono (drains : Drains expired d y caller) (more : Bool) :
    Drains (expired || more) d y caller := by
  cases caller with
  | panicked =>
    exact drains.imp_right fun ⟨stopped, fits, expiry, panics⟩ =>
      ⟨stopped, fits, by rw [expiry, Bool.true_or], panics⟩
  | shutDown outcome => cases outcome <;> exact drains
  | announcingStop e inTime =>
    obtain ⟨same, draining, fits, expiry⟩ := drains
    exact ⟨same, draining, fits, by rw [← Bool.or_assoc, expiry, Bool.true_or]⟩
  | _ => simp_all [Drains]

theorem expire (drains : Drains expired d y caller)
    (expiry : y.expireOn place now caller = some next) :
    Drains true d { y with callers := y.callers.set place next } next := by
  rcases expireOn_cases expiry with ⟨limit, rfl, rfl⟩ | ⟨e, limit, rfl, rfl⟩
  · cases drains
  · obtain ⟨rfl, draining, fits⟩ := drains
    exact ⟨rfl, draining, fits, rfl⟩

theorem act (drains : Drains expired d y caller)
    (acts : System.Acts y place now caller z next effects)
    (timely : caller = .closingChannel d → d.since ≤ now ∧ (now.add? .zero).isSome = true) :
    Drains expired d { z with callers := z.callers.set place next } next := by
  cases acts with
  | announceDrain e | watchWorker e c done part => exact drains
  | closeChannel e c done part =>
    obtain ⟨rfl, draining⟩ := drains
    obtain ⟨later, shown⟩ := timely rfl
    have clock := remaining_isOnClock later shown
    cases limit : now.add? (e.remaining now) with
    | none =>
      rw [limit] at clock
      cases part
      exact .inl ⟨draining, clock.symm, rfl⟩
    | some limit =>
      rw [limit] at clock
      exact ⟨rfl, draining, clock.symm⟩
  | seeStopped e limit ran =>
    obtain ⟨rfl, draining, fits⟩ := drains
    exact ⟨rfl, draining, fits, rfl⟩
  | announceStop e inTime =>
    obtain ⟨rfl, draining, fits, expiry⟩ := drains
    cases inTime with
    | true => exact ⟨rfl, fits⟩
    | false => exact ⟨rfl, rfl, fits, expiry⟩
  | cancelExport e | abandonChannel e c done part => exact drains
  | giveNotice e =>
    obtain ⟨rfl, stopped, fits, expiry⟩ := drains
    by_cases panics : y.settings.panicsOn (.drainTimedOut e.length) = true
    · rw [if_pos panics]
      exact .inr ⟨stopped, fits, expiry, panics⟩
    · rw [if_neg panics]
      exact ⟨stopped, fits, Bool.eq_false_iff.mpr panics⟩
  | readFailure => cases failure : y.drain.failure <;> exact drains
  | _ => cases drains

/-- Where the clock can show the end of the deadline, and only there, the provider ends up stopped. -/
theorem stopped_iff (drains : Drains expired d y caller) (done : caller.isDone = true) :
    y.state = .stopped ↔ d.isOnClock = true := by
  cases caller with
  | shutDown outcome => cases outcome <;> simp_all [Drains]
  | panicked => rcases drains with ⟨state, clock, _⟩ | ⟨state, clock, _⟩ <;> simp [state, clock]
  | started | flushed => cases drains
  | _ => cases done

end Drains

theorem mem_exchanges {e : Event} {x : Exchange} : x ∈ Event.exchanges e ↔
    (∃ now, e.label = .act x.place now) ∧
      e.before.callers[x.place]? = some (.claiming x.deadline) ∧ x.found = e.before.state := by
  unfold Event.exchanges
  constructor
  · intro member
    split at member
    · next place now label =>
      split at member
      · next d found =>
        obtain rfl := List.mem_singleton.mp member
        exact ⟨⟨now, label⟩, found, rfl⟩
      · cases member
    · cases member
  · rintro ⟨⟨now, label⟩, found, state⟩
    rw [label]
    simp only [found, List.mem_singleton]
    cases x
    cases state
    rfl

theorem mem_shutdowns {e : Event} {s : Nat × Deadline} : s ∈ Event.shutdowns e ↔
    e.label = .call (.shutDown s.2.length) s.2.since ∧ s.1 = e.before.callers.length := by
  unfold Event.shutdowns
  constructor
  · intro member
    split at member
    · next length since label =>
      obtain rfl := List.mem_singleton.mp member
      exact ⟨label, rfl⟩
    · cases member
  · rintro ⟨label, place⟩
    rw [label, ← place]
    exact List.mem_singleton_self s

theorem claims_concat (events : List Event) (e : Event) :
    claims (events ++ [e]) = claims events ++ claims [e] := by
  simp [claims, List.flatMap_append, List.filter_append]

theorem mem_claims {x : Exchange} :
    x ∈ claims events ↔ x.found = .running ∧ ∃ e ∈ events, x ∈ Event.exchanges e := by
  simp [claims, and_comm]

theorem claim_step (step : System.Step y label z effects) {x : Exchange}
    (claim : x ∈ claims [⟨y, label, effects, z⟩]) :
    y.state = .running ∧ z.state = .draining ∧
      z.callers[x.place]? = some (.announcingDrain x.deadline) := by
  obtain ⟨running, e, one, member⟩ := mem_claims.mp claim
  obtain rfl := List.mem_singleton.mp one
  obtain ⟨⟨now, rfl⟩, found, state⟩ := mem_exchanges.mp member
  cases step with
  | act _ _ caller next w effects there acts =>
    cases found.symm.trans there
    have inside := (List.getElem?_eq_some_iff.mp found).1
    cases acts with
    | claim d running => exact ⟨running, rfl, List.getElem?_set_self inside⟩
    | claimLate d other => exact absurd (state.symm.trans running) other

theorem claims_closed (closed : y.state.isAccepting = false) :
    claims [⟨y, label, effects, z⟩] = [] := by
  refine List.eq_nil_iff_forall_not_mem.mpr fun x claim => ?_
  obtain ⟨running, e, one, member⟩ := mem_claims.mp claim
  obtain rfl := List.mem_singleton.mp one
  rw [← (mem_exchanges.mp member).2.2, running] at closed
  cases closed

/-- The provider stops taking measurements by a claim, and in no other way. -/
theorem claims_step (orderly : Orderly y) (step : System.Step y label z effects)
    (accepting : y.state.isAccepting = true) :
    (claims [⟨y, label, effects, z⟩] = [] ∧ z.state.isAccepting = true) ∨
      ∃ x, claims [⟨y, label, effects, z⟩] = [x] := by
  have unclaimed (other : z.state ≠ .draining) : claims [⟨y, label, effects, z⟩] = [] :=
    List.eq_nil_iff_forall_not_mem.mpr fun x claim => other (claim_step step claim).2.1
  rcases step.moves with same | moves
  · rw [same] at unclaimed ⊢
    refine .inl ⟨unclaimed fun draining => ?_, accepting⟩
    rw [draining] at accepting
    cases accepting
  · generalize after : z.state = state at moves
    cases moves with
    | start =>
      rw [after] at unclaimed
      exact .inl ⟨unclaimed (by simp), rfl⟩
    | drain place now d found running =>
      refine .inr ⟨⟨place, d, .running⟩, ?_⟩
      simp [claims, Event.exchanges, found, running]
    | stop place now d inTime found =>
      have closed := (orderly.owner place _ found rfl).1
      cases accepting.symm.trans closed

/-- No other caller shuts the provider down. -/
def Sole (place : Nat) (y : System) : Prop :=
  ∀ (q : Nat) (c : Caller), y.callers[q]? = some c → c.isOwner = true → q = place

theorem Sole.step (sole : Sole place y) (step : System.Step y label z effects)
    (closed : y.state.isAccepting = false) : Sole place z := by
  intro q c found owner
  rcases step.isOwner found owner with ⟨earlier, there, before⟩ | ⟨running, _⟩
  · exact sole q earlier there before
  · rw [running] at closed
    cases closed

/-- Only the caller that drains the provider changes the state. -/
theorem Sole.state_step (sole : Sole place y) (step : System.Step y label z effects)
    (closed : y.state.isAccepting = false) (other : ∀ now, label ≠ .act place now) :
    z.state = y.state := by
  refine step.moves.resolve_right fun moves => ?_
  generalize z.state = state at moves
  cases moves with
  | start _ _ _ _ idle => cases idle ▸ closed
  | drain _ _ _ _ running => cases running ▸ closed
  | stop place now d inTime found =>
    obtain rfl := sole place _ found rfl
    exact other now rfl

/-- Nobody has claimed the shutdown, or one caller has, which drains the provider. -/
def Claimed (events : List Event) (y : System) : Prop :=
  claims events = [] ∧ y.state.isAccepting = true ∨
    ∃ x caller, claims events = [x] ∧ y.callers[x.place]? = some caller ∧
      Drains (events.any (Event.expires x.place)) x.deadline y caller ∧ Sole x.place y

namespace Claimed

theorem begin (orderly : Orderly y) (step : System.Step y label z effects) (none : claims events = [])
    {x : Exchange} (claim : claims [⟨y, label, effects, z⟩] = [x]) :
    Claimed (events ++ [⟨y, label, effects, z⟩]) z := by
  obtain ⟨running, draining, here⟩ := claim_step step (claim ▸ List.mem_singleton_self x)
  refine .inr ⟨x, _, ?_, here, ⟨rfl, draining⟩, (orderly.owner_step step here rfl).2⟩
  rw [claims_concat, none, claim, List.nil_append]

theorem step (claimed : Claimed events y) (orderly : Orderly y)
    (step : System.Step y label z effects) (timely : Event.isTimely ⟨y, label, effects, z⟩ = true) :
    Claimed (events ++ [⟨y, label, effects, z⟩]) z := by
  rcases claimed with ⟨none, accepting⟩ | ⟨x, caller, one, here, drains, sole⟩
  · rcases claims_step orderly step accepting with ⟨still, accepting⟩ | ⟨x, claim⟩
    · exact .inl ⟨by rw [claims_concat, none, still, List.nil_append], accepting⟩
    · exact begin orderly step none claim
  · have closed := drains.closed
    have same : claims (events ++ [⟨y, label, effects, z⟩]) = [x] := by
      rw [claims_concat, one, claims_closed closed, List.append_nil]
    have others := sole.step step closed
    obtain ⟨next, found, goes⟩ := step.advances here
    refine .inr ⟨x, next, same, found, ?_, others⟩
    rw [List.any_append]
    -- Someone else steps, the caller gives up waiting, or it takes a step of its own.
    rcases goes with ⟨rfl, kept⟩ | ⟨now, rfl, expiry, rfl⟩ | ⟨now, w, rfl, acts, rfl⟩
    · exact (drains.mono _).frame (sole.state_step step closed fun now => (kept now).1)
        (settings_step step) step.isOpen
    · have expired : Event.expires x.place ⟨y, .expire x.place now, effects,
        { y with callers := y.callers.set x.place next }⟩ = true := by simp [Event.expires]
      rw [List.any_cons, expired, Bool.true_or, Bool.or_true]
      exact drains.expire expiry
    · refine Drains.mono (drains.act acts ?_) _
      rintro rfl
      simpa [Event.isTimely, here] using timely

theorem of_run (run : Run (.build settings built) events y)
    (timely : ∀ e ∈ events, Event.isTimely e = true) : Claimed events y := by
  induction run with
  | nil => exact .inl ⟨rfl, rfl⟩
  | snoc run stepped ih =>
    exact (ih fun e member => timely e (by simp [member])).step (Orderly.of_run run)
      (System.step_sound stepped) (timely _ (by simp))

end Claimed

/-- What becomes of a shutdown that is called: it has yet to try to move the provider to draining,
it found the provider not running and has returned, or it has claimed the shutdown. -/
def Answered (events : List Event) (y : System) (s : Nat × Deadline) : Prop :=
  ∃ caller, y.callers[s.1]? = some caller ∧
    (caller.approaches s.2 = true ∨
      (caller = .shutDown .alreadyShutdown ∧
        ∃ found, found ≠ .running ∧ ⟨s.1, s.2, found⟩ ∈ events.flatMap Event.exchanges) ∨
      ⟨s.1, s.2, .running⟩ ∈ claims events)

theorem isDone_of_approaches (approaches : caller.approaches d = true) : caller.isDone = false := by
  unfold Caller.approaches at approaches
  split at approaches
  · rfl
  · rfl
  · rfl
  · rfl
  · cases approaches

theorem approaches_acts (acts : System.Acts y place now caller z next effects)
    (approaches : caller.approaches d = true) :
    next.approaches d = true ∨ caller = .claiming d ∧
      (y.state = .running ∨ y.state ≠ .running ∧ next = .shutDown .alreadyShutdown) := by
  cases acts.leads with
  | takeStarter next =>
    cases next with
    | none => cases approaches
    | some e => exact .inl approaches
  | findStartedFirst | announceFirst | startFirst | checkState => exact .inl approaches
  | claim e =>
    obtain rfl : e = d := by simpa [Caller.approaches] using approaches
    cases acts with
    | claim _ running => exact .inr ⟨rfl, .inl running⟩
  | claimLate e =>
    obtain rfl : e = d := by simpa [Caller.approaches] using approaches
    cases acts with
    | claimLate _ other => exact .inr ⟨rfl, .inr ⟨other, rfl⟩⟩
  | _ => cases approaches

theorem approaches_of_acts (acts : System.Acts y place now caller z next effects)
    (approaches : next.approaches d = true) : caller.approaches d = true := by
  cases acts.leads with
  | takeStarter next =>
    cases next with
    | none => cases approaches
    | some e => exact approaches
  | findStartedFirst | announceFirst | startFirst | checkState => exact approaches
  | _ => cases approaches

theorem exchanges_mono {x : Exchange} (member : x ∈ events.flatMap Event.exchanges) (e : Event) :
    x ∈ (events ++ [e]).flatMap Event.exchanges := by
  rw [List.flatMap_append]
  exact List.mem_append_left _ member

theorem Answered.step {s : Nat × Deadline} (answered : Answered events y s)
    (step : System.Step y label z effects) : Answered (events ++ [⟨y, label, effects, z⟩]) z s := by
  obtain ⟨caller, here, approaches | ⟨rfl, late, other, exchanged⟩ | claimed⟩ := answered
  · obtain ⟨next, found, ⟨rfl, _⟩ | ⟨now, rfl, expiry, _⟩ | ⟨now, w, rfl, acts, _⟩⟩ := step.advances here
    · exact ⟨next, found, .inl approaches⟩
    · rcases expireOn_cases expiry with ⟨limit, rfl, _⟩ | ⟨d, limit, rfl, _⟩ <;> cases approaches
    · refine ⟨next, found, ?_⟩
      rcases approaches_acts acts approaches with still | ⟨rfl, found⟩
      · exact .inl still
      · have exchanged : (⟨s.1, s.2, y.state⟩ : Exchange) ∈
            (events ++ [(⟨y, .act s.1 now, effects, z⟩ : Event)]).flatMap Event.exchanges := by
          refine List.mem_flatMap.mpr ⟨_, List.mem_concat_self, ?_⟩
          exact mem_exchanges.mpr ⟨⟨now, rfl⟩, here, rfl⟩
        rcases found with running | ⟨other, rfl⟩
        · rw [running] at exchanged
          exact .inr (.inr (List.mem_filter.mpr ⟨exchanged, rfl⟩))
        · exact .inr (.inl ⟨rfl, y.state, other, exchanged⟩)
  · refine ⟨_, step.isDone here rfl, .inr (.inl ⟨rfl, late, other, exchanges_mono exchanged _⟩)⟩
  · obtain ⟨next, found, _⟩ := step.advances here
    refine ⟨next, found, .inr (.inr ?_)⟩
    rw [claims_concat]
    exact List.mem_append_left _ claimed

/-- Every shutdown that is called gets its answer, and whoever may still move the provider to
draining, or has tried to, is a shutdown that was called. -/
structure Asked (events : List Event) (y : System) : Prop where
  answered : ∀ s ∈ events.flatMap Event.shutdowns, Answered events y s
  approaching : ∀ (p : Nat) (c : Caller) (d : Deadline), y.callers[p]? = some c →
    c.approaches d = true → (p, d) ∈ events.flatMap Event.shutdowns
  exchanged : ∀ x ∈ events.flatMap Event.exchanges,
    (x.place, x.deadline) ∈ events.flatMap Event.shutdowns

namespace Asked

theorem later {s : Nat × Deadline} (called : s ∈ events.flatMap Event.shutdowns) (e : Event) :
    s ∈ (events ++ [e]).flatMap Event.shutdowns := by
  rw [List.flatMap_append]
  exact List.mem_append_left _ called

variable (asked : Asked events y) (step : System.Step y label z effects)
include asked step

theorem answered_step {s : Nat × Deadline}
    (called : s ∈ (events ++ [(⟨y, label, effects, z⟩ : Event)]).flatMap Event.shutdowns) :
    Answered (events ++ [⟨y, label, effects, z⟩]) z s := by
  rw [List.flatMap_append, List.flatMap_singleton, List.mem_append] at called
  rcases called with before | here
  · exact (asked.answered s before).step step
  · obtain ⟨rfl, place⟩ := mem_shutdowns.mp here
    cases step with
    | call c now =>
      refine ⟨.checkingState s.2, ?_, .inl (by simp [Caller.approaches])⟩
      rw [place]
      exact List.getElem?_concat_length

theorem approaching_step {p : Nat} (found : z.callers[p]? = some caller)
    (approaches : caller.approaches d = true) :
    (p, d) ∈ (events ++ [(⟨y, label, effects, z⟩ : Event)]).flatMap Event.shutdowns := by
  by_cases inside : p < y.callers.length
  · have here : y.callers[p]? = some y.callers[p] := List.getElem?_eq_getElem inside
    obtain ⟨next, there, goes⟩ := step.advances here
    cases found.symm.trans there
    rcases goes with ⟨same, _⟩ | ⟨now, _, expiry, _⟩ | ⟨now, w, _, acts, _⟩
    · exact later (asked.approaching p _ d here (same ▸ approaches)) _
    · rcases expireOn_cases expiry with ⟨_, _, rfl⟩ | ⟨_, _, _, rfl⟩ <;> cases approaches
    · exact later (asked.approaching p _ d here (approaches_of_acts acts approaches)) _
  · obtain ⟨call, now, rfl, place, rfl⟩ := step.called (Nat.le_of_not_lt inside) found
    rw [List.flatMap_append, List.flatMap_singleton]
    refine List.mem_append_right _ (mem_shutdowns.mpr ⟨?_, place⟩)
    cases call with
    | shutDown length =>
      obtain rfl : ⟨length, now⟩ = d := by simpa [Caller.ofCall, Caller.approaches] using approaches
      rfl
    | start | flush => cases approaches

omit step in
theorem exchanged_step (e : Event) (before : e.before = y) {x : Exchange}
    (exchanged : x ∈ (events ++ [e]).flatMap Event.exchanges) :
    (x.place, x.deadline) ∈ (events ++ [e]).flatMap Event.shutdowns := by
  subst before
  rw [List.flatMap_append, List.flatMap_singleton, List.mem_append] at exchanged
  rcases exchanged with earlier | here
  · exact later (asked.exchanged x earlier) _
  · have found := (mem_exchanges.mp here).2.1
    exact later (asked.approaching x.place _ _ found (by simp [Caller.approaches])) _

omit asked step in
theorem of_run (run : Run (.build settings built) events y) : Asked events y := by
  induction run with
  | nil =>
    refine ⟨fun s member => ?_, fun p c d found => ?_, fun x member => ?_⟩
    · cases member
    · cases found
    · cases member
  | snoc _ stepped ih =>
    have step := System.step_sound stepped
    exact ⟨fun s => ih.answered_step step, fun p c d => ih.approaching_step step,
      fun x => ih.exchanged_step _ rfl⟩

end Asked

/-- The starter goes once: the provider is dropped with it, or a caller takes it. -/
theorem starter_step (step : System.Step y label z effects) :
    z.holdsStarter = y.holdsStarter ∨ y.holdsStarter = true ∧ z.holdsStarter = false ∧
      (label = .discardStarter ∨ ∃ (q : Nat) (next : Option Deadline),
        z.callers[q]? = some (.announcing next)) := by
  cases step with
  | act place now caller next w effects found acts =>
    have inside := (List.getElem?_eq_some_iff.mp found).1
    cases acts with
    | takeStarter next holds =>
      exact .inr ⟨holds, rfl, .inr ⟨place, next, List.getElem?_set_self inside⟩⟩
    | _ => exact .inl rfl
  | discardStarter holds => exact .inr ⟨holds, rfl, .inl rfl⟩
  | _ => exact .inl rfl

/-- What holds of the starter while the provider is idle, unless the provider is dropped. -/
structure Starting (y : System) : Prop where
  /-- Whoever has taken the starter is about to say that the provider is running. -/
  taken : y.state = .idle → y.holdsStarter = false →
    ∃ (q : Nat) (next : Option Deadline), y.callers[q]? = some (.announcing next)
  claiming : y.state = .idle → ∀ (p : Nat) (d : Deadline), y.callers[p]? = some (.claiming d) →
    y.holdsStarter = false

namespace Starting

theorem idle_of_idle (step : System.Step y label z effects) (idle : z.state = .idle) :
    y.state = .idle := by
  have le := step.state_le
  rw [idle] at le
  cases state : y.state with
  | idle => rfl
  | _ => rw [state] at le; cases le

variable (starting : Starting y) (step : System.Step y label z effects)
include starting step

theorem taken_step (kept : label ≠ .discardStarter) (idle : z.state = .idle)
    (gone : z.holdsStarter = false) :
    ∃ (q : Nat) (next : Option Deadline), z.callers[q]? = some (.announcing next) := by
  have before := idle_of_idle step idle
  rcases starter_step step with same | ⟨_, _, discards | announcing⟩
  · obtain ⟨q, next, here⟩ := starting.taken before (same ▸ gone)
    obtain ⟨_, there, ⟨rfl, _⟩ | ⟨now, _, expiry, _⟩ | ⟨now, w, _, acts, rfl⟩⟩ := step.advances here
    · exact ⟨q, next, there⟩
    · rcases expireOn_cases expiry with ⟨_, same, _⟩ | ⟨_, _, same, _⟩ <;> cases same
    · cases acts
      simp [before] at idle
  · exact absurd discards kept
  · exact announcing

theorem claiming_step (idle : z.state = .idle) {p : Nat}
    (found : z.callers[p]? = some (.claiming d)) : z.holdsStarter = false := by
  have before := idle_of_idle step idle
  have still (gone : y.holdsStarter = false) : z.holdsStarter = false := by
    rcases starter_step step with same | ⟨_, gone, _⟩
    · rw [same, gone]
    · exact gone
  rcases step.found found with same | ⟨now, call, other⟩ | ⟨caller, there, ⟨now, expiry⟩ | moved⟩
  · exact still (starting.claiming before p d same)
  · cases call <;> cases other
  · rcases expireOn_cases expiry with ⟨_, _, same⟩ | ⟨_, _, _, same⟩ <;> cases same
  · obtain ⟨now, w, rfl, acts, rfl⟩ := moved
    have approaches := approaches_of_acts acts (d := d) (by simp [Caller.approaches])
    refine still ?_
    generalize after : Caller.claiming d = next at acts
    cases acts with
    | findStarted next taken => exact taken
    | announce next => simp [before] at idle
    | checkState e => simp [before] at after
    | takeStarter | claim | claimLate => cases after
    | _ => cases approaches

omit starting step in
theorem of_run (run : Run (.build settings built) events y)
    (kept : ∀ e ∈ events, e.label ≠ .discardStarter) : Starting y := by
  induction run with
  | nil => exact ⟨by simp [System.build], by simp [System.build]⟩
  | snoc run stepped ih =>
    have starting := ih fun e member => kept e (by simp [member])
    have step := System.step_sound stepped
    exact ⟨starting.taken_step step (kept _ List.mem_concat_self),
      fun idle p d => starting.claiming_step step idle⟩

end Starting

theorem startsWorker_once {first : System} (run : Run first events y) :
    events.countP Event.startsWorker ≤ 1 := by
  have spent := run.countP_add_le Event.startsWorker (fun s => s.holdsStarter.toNat) fun e member => by
    have starter := starter_step (System.step_sound (run.step_of_mem member))
    unfold Event.startsWorker
    split
    · rcases starter with same | ⟨held, gone, _⟩
      · simp [same]
      · simp [held, gone]
    · rcases starter with same | ⟨held, gone, _⟩
      · simp [same]
      · simp [held, gone]
  have most : first.holdsStarter.toNat ≤ 1 := Bool.toNat_le _
  omega

/-- One shutdown drains the provider, which found it running: every other one has returned that
the provider was shut down before, and the provider is stopped. -/
def ShutDownOnce (events : List Event) (y : System) : Prop :=
  ∃ s ∈ events.flatMap Event.shutdowns, claims events = [⟨s.1, s.2, .running⟩] ∧
    (∀ o ∈ events.flatMap Event.shutdowns, o ≠ s →
      y.callers[o.1]? = some (.shutDown .alreadyShutdown)) ∧
    y.state = .stopped

/-- A shutdown that finds the provider started has claimed the shutdown, or another one had. -/
theorem claims_ne_nil (run : Run (.build settings built) events y)
    (timely : ∀ e ∈ events, Event.isTimely e = true) {x : Exchange}
    (exchanged : x ∈ events.flatMap Event.exchanges) (started : x.found ≠ .idle) :
    claims events ≠ [] := by
  intro none
  obtain ⟨e, member, exchange⟩ := List.mem_flatMap.mp exchanged
  have state := (mem_exchanges.mp exchange).2.2
  rcases Claimed.of_run run timely with ⟨_, accepting⟩ | ⟨w, _, one, _⟩
  · obtain ⟨left, right, rfl⟩ := List.append_of_mem member
    obtain ⟨_, stepped, rest⟩ := run.split
    cases found : x.found with
    | idle => exact started found
    | running =>
      have claim := mem_claims.mpr ⟨found, e, member, exchange⟩
      rw [none] at claim
      cases claim
    | draining | stopped =>
      have closed := (closed_run (rest.cons stepped) (by rw [← state, found]; rfl)).2
      cases closed.symm.trans accepting
  · cases none.symm.trans one

/-- Once every caller has its answer, one shutdown has drained the provider exactly where one of
them found it started, and the clock can show the end of the deadline of the one that claimed it. -/
theorem shutDownOnce_iff (run : Run (.build settings built) events y)
    (timely : ∀ e ∈ events, Event.isTimely e = true)
    (done : ∀ caller ∈ y.callers, caller.isDone = true) :
    ShutDownOnce events y ↔ (∃ x ∈ events.flatMap Event.exchanges, x.found ≠ .idle) ∧
      ∀ x ∈ claims events, x.deadline.isOnClock = true := by
  have asked := Asked.of_run run
  have claimed := Claimed.of_run run timely
  constructor
  · rintro ⟨s, _, one, _, stopped⟩
    rcases claimed with ⟨none, _⟩ | ⟨x, caller, same, here, drains, _⟩
    · cases one.symm.trans none
    · have member : x ∈ claims events := same ▸ List.mem_singleton_self x
      obtain ⟨running, exchanged⟩ := mem_claims.mp member
      refine ⟨⟨x, List.mem_flatMap.mpr exchanged, by simp [running]⟩, fun w claim => ?_⟩
      rw [same, List.mem_singleton] at claim
      rw [claim]
      exact (drains.stopped_iff (done caller (List.mem_of_getElem? here))).mp stopped
  · rintro ⟨⟨w, exchanged, started⟩, fits⟩
    rcases claimed with ⟨none, _⟩ | ⟨x, caller, same, here, drains, _⟩
    · exact absurd none (claims_ne_nil run timely exchanged started)
    · have member : x ∈ claims events := same ▸ List.mem_singleton_self x
      obtain ⟨running, exchanged⟩ := mem_claims.mp member
      obtain ⟨place, deadline, found⟩ := x
      subst running
      have asking := asked.exchanged _ (List.mem_flatMap.mpr exchanged)
      refine ⟨(place, deadline), asking, same, fun o called other => ?_, ?_⟩
      · obtain ⟨answer, there, approaches | ⟨rfl, _⟩ | claim⟩ := asked.answered o called
        · cases (done answer (List.mem_of_getElem? there)).symm.trans (isDone_of_approaches approaches)
        · exact there
        · rw [same, List.mem_singleton] at claim
          cases claim
          exact absurd rfl other
      · exact (drains.stopped_iff (done caller (List.mem_of_getElem? here))).mpr (fits _ member)

/-- In every run of a provider, however the steps of its callers are interleaved, the state never
goes back and the worker is started at most once. A shutdown that finds the provider idle does so
between two steps of another call, which has started the worker and is yet to say so. Once all
callers have their answers, one shutdown has drained the provider and all others have returned that
it was shut down before, exactly where some shutdown found the provider started and the clock can
show the end of the deadline. -/
theorem lifecycle_one_way (run : Run (.build settings built) events y) :
    (∀ e ∈ events, e.before.state ≤ e.after.state) ∧
    events.countP Event.startsWorker ≤ 1 ∧
    (events.flatMap Event.channel).countP Channel.Event.enters ≤ 1 ∧
    ((∀ e ∈ events, e.label ≠ .discardStarter) → ∀ e ∈ events, ∀ x ∈ Event.exchanges e,
      x.found = .idle → ∃ (q : Nat) (next : Option Deadline),
        e.before.callers[q]? = some (.announcing next)) ∧
    ((∀ e ∈ events, Event.isTimely e = true) → (∀ caller ∈ y.callers, caller.isDone = true) →
      (ShutDownOnce events y ↔ (∃ x ∈ events.flatMap Event.exchanges, x.found ≠ .idle) ∧
        ∀ x ∈ claims events, x.deadline.isOnClock = true)) := by
  refine ⟨?_, startsWorker_once run, Channel.Loop.enters_once (channelRun run), ?_, ?_⟩
  · intro e member
    exact (System.step_sound (run.step_of_mem member)).state_le
  · intro kept e member x exchange idle
    obtain ⟨_, found, state⟩ := mem_exchanges.mp exchange
    obtain ⟨left, right, rfl⟩ := List.append_of_mem member
    have starting := Starting.of_run run.split.1 fun e earlier => kept e (by simp [earlier])
    have before : e.before.state = .idle := state.symm.trans idle
    exact starting.taken before (starting.claiming before _ _ found)
  · intro timely done
    exact shutDownOnce_iff run timely done

/-- Two shutdowns come at once, and the second one finds the provider draining. -/
def overlapping : List Label :=
  [.call .start ⟨0⟩, .act 0 ⟨0⟩, .act 0 ⟨0⟩, .enter ⟨0⟩, .call (.shutDown (.ofSeconds 5)) ⟨0⟩,
    .call (.shutDown .zero) ⟨0⟩, .act 1 ⟨0⟩, .act 2 ⟨0⟩, .act 1 ⟨0⟩, .act 2 ⟨0⟩, .act 1 ⟨0⟩, .act 1 ⟨0⟩,
    .act 1 ⟨0⟩, .look ⟨0⟩ ⟨0⟩, .leave, .act 1 ⟨0⟩, .act 1 ⟨0⟩, .act 1 ⟨0⟩]

theorem lifecycle_one_way_overlapping :
    let first : System := .build {} ⟨.zero⟩
    let events := follow System.step first overlapping
    ShutDownOnce events (endOf first events) := by
  intro first events
  obtain ⟨_, _, _, _, once⟩ := lifecycle_one_way (run_follow System.step first overlapping)
  refine (once ?_ ?_).mpr ⟨?_, ?_⟩
  · decide +kernel
  · decide +kernel
  · decide +kernel
  · decide +kernel

/-- The shutdown comes between two steps of the start. -/
def premature : List Label :=
  [.call .start ⟨0⟩, .call (.shutDown (.ofSeconds 5)) ⟨0⟩, .act 0 ⟨0⟩, .act 1 ⟨0⟩, .act 1 ⟨0⟩,
    .act 1 ⟨0⟩, .act 0 ⟨0⟩]

/-- The deadline of the first shutdown is beyond the clock. -/
def unending : List Label :=
  [.call .start ⟨0⟩, .act 0 ⟨0⟩, .act 0 ⟨0⟩, .call (.shutDown .max) ⟨0⟩] ++
    List.replicate 5 (.act 1 ⟨0⟩) ++ [.call (.shutDown (.ofSeconds 5)) ⟨0⟩, .act 2 ⟨0⟩, .act 2 ⟨0⟩]

/-- All callers have their answers, and although there was a shutdown the provider is not shut
down. -/
def LeftOpen (labels : List Label) : Prop :=
  let first : System := .build {} ⟨.zero⟩
  let events := follow System.step first labels
  (∀ e ∈ events, Event.isTimely e = true) ∧
    (∀ caller ∈ (endOf first events).callers, caller.isDone = true) ∧
    events.flatMap Event.shutdowns ≠ [] ∧ ¬ ShutDownOnce events (endOf first events)

theorem leftOpen_premature_unending : LeftOpen premature ∧ LeftOpen unending := by
  constructor
  · refine ⟨by decide +kernel, by decide +kernel, by decide +kernel, ?_⟩
    rintro ⟨_, _, _, _, stopped⟩
    exact absurd stopped (by decide +kernel)
  · refine ⟨by decide +kernel, by decide +kernel, by decide +kernel, ?_⟩
    rintro ⟨_, _, _, _, stopped⟩
    exact absurd stopped (by decide +kernel)

end Telemetry.Provider
