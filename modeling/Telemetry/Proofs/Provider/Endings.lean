import Telemetry.Proofs.Provider.Verdict

/-! How the worker parts with the windows it takes. Each window leaves its hands in a step that
exports it or gives it up. Main result: `exists_ending`. -/
namespace Telemetry.Provider

namespace Event

/-- The step in which the worker enters its loop. -/
def enters (e : Event) : Bool := (Event.channel e).any Channel.Event.enters

/-- Whether the worker gives up a batch, which it does not try to export again. -/
def givesUp (e : Event) : Bool :=
  match e.label, e.after.channel.receiver.phase with
  | .collect _ _ _, .looking | .poll _, .looking | .decide, .looking => (exported e).isEmpty
  | _, _ => false

/-- Whether the worker parts with a batch. -/
def parts (e : Event) : Bool := !(exported e).isEmpty || givesUp e

end Event

variable {y z : System} {label : Label} {effects : List Effect} {events : List Event}
  {settings : Settings} {built : Timestamp}

theorem ledger_concat (events : List Event) (e : Event) :
    ledger (events ++ [e]) = (Event.channel e).foldl Channel.Ledger.note (ledger events) := by
  simp [ledger, Channel.Ledger.of, List.foldl_append]

theorem taken_quiet (events : List Event) (quiet : Quiet y z label effects) :
    ((∃ ms, (ledger (events ++ [⟨y, label, effects, z⟩])).taken = (ledger events).taken ++ [ms]) ∧
      y.channel.receiver.isHolding = false ∧ z.channel.receiver.isHolding = true) ∨
    ((ledger (events ++ [⟨y, label, effects, z⟩])).taken = (ledger events).taken ∧
      z.channel.receiver.isHolding = y.channel.receiver.isHolding) := by
  rw [ledger_concat]
  rcases quiet.channel with ⟨none, same⟩ | ⟨l, done, one, step, calm⟩
  · rw [none, same]
    exact .inr ⟨rfl, rfl⟩
  · rw [one]
    rcases Channel.isHolding_quiet step calm with ⟨takes, idle, holds⟩ | ⟨takes, same⟩
    · exact .inl ⟨⟨_, Channel.Ledger.taken_note_takes takes⟩, idle, holds⟩
    · exact .inr ⟨Channel.Ledger.taken_note takes, same⟩

/-- No window is taken while an attempt begins or ends. -/
theorem taken_busy (events : List Event) (busy : label.isQuiet = false) :
    (ledger (events ++ [⟨y, label, effects, z⟩])).taken = (ledger events).taken := by
  rw [ledger_concat]
  refine Channel.taken_follow (fun l member now later same => ?_) _ _
  subst same
  cases label with
  | collect at_ order panics =>
    simp only [System.channelLabels] at member
    unfold System.brokenEnd at member
    grind
  | poll reply => simp [System.channelLabels] at member
  | decide => simp [System.channelLabels] at member
  | _ => cases busy

theorem parts_of_looking (busy : label.isQuiet = false)
    (phase : z.channel.receiver.phase = .looking) : Event.parts ⟨y, label, effects, z⟩ = true := by
  cases label with
  | collect | poll | decide => simp [Event.parts, Event.givesUp, phase]
  | _ => cases busy

theorem parts_or_holds (step : System.Step y label z effects) (busy : label.isQuiet = false) :
    Event.parts ⟨y, label, effects, z⟩ = true ∨ z.channel.receiver.isHolding = true := by
  suffices z.channel.receiver.phase = .looking ∨ z.channel.receiver.isHolding = true from
    this.imp_left (parts_of_looking busy)
  cases step with
  | collectBegun => exact .inr rfl
  | collectFailed _ _ _ _ _ _ c done _ _ _ part | collectBroken _ _ _ _ _ _ _ c done _ _ _ _ part
  | poll _ _ c done _ part => exact Channel.isHolding_settle (Channel.System.step_sound part)
  | decide c done part => exact Channel.isHolding_decide (Channel.System.step_sound part)
  | _ => cases busy

/-- A window that the worker has parted with: so many windows were taken by then. -/
def IsOver (events : List Event) (i : Nat) : Prop :=
  ∃ left e right, events = left ++ e :: right ∧
    (ledger (left ++ [e])).taken.length = i + 1 ∧ Event.parts e = true

theorem IsOver.later {i : Nat} (past : IsOver events i) (e : Event) : IsOver (events ++ [e]) i := by
  obtain ⟨left, d, right, rfl, taken, parts⟩ := past
  exact ⟨left, d, right ++ [e], by simp, taken, parts⟩

/-- The worker has parted with every window but the one in its hands. -/
theorem isOver_of_run (run : Run (.build settings built) events y) {i : Nat}
    (taken : i < (ledger events).taken.length) :
    IsOver events i ∨ y.channel.receiver.isHolding = true ∧ i + 1 = (ledger events).taken.length := by
  induction run with
  | nil => cases taken
  | @snoc events y z label effects run stepped ih =>
    have step := System.step_sound stepped
    cases calm : label.isQuiet with
    | true =>
      rcases taken_quiet events (quiet_step step calm) with ⟨⟨ms, more⟩, idle, holds⟩ | ⟨same, holds⟩
      -- A window is taken with empty hands only, so those taken earlier are over.
      · rw [more, List.length_append, List.length_singleton] at taken ⊢
        rcases Nat.lt_succ_iff_lt_or_eq.mp taken with before | last
        · refine .inl (((ih before).resolve_right fun ⟨held, _⟩ => ?_).later _)
          cases idle.symm.trans held
        · exact .inr ⟨holds, by omega⟩
      · rw [same] at taken ⊢
        rw [holds]
        exact (ih taken).imp_left fun past => past.later _
    | false =>
      have same : (ledger (events ++ [⟨y, label, effects, z⟩])).taken = (ledger events).taken :=
        taken_busy events calm
      rw [same] at taken ⊢
      rcases ih taken with past | ⟨_, last⟩
      · exact .inl (past.later _)
      · refine (parts_or_holds step calm).imp (fun parts => ?_) fun holds => ⟨holds, last⟩
        exact ⟨events, _, [], by simp, by rw [same, last], parts⟩

/-- The windows that a batch shows: the last one taken, or with cumulative temporality all of
them. -/
def Covers (t : Temporality) (windows : List (List Measurement)) (n : Nat) : Prop :=
  n < windows.flatten.length ∧ (t = .delta → windows.dropLast.flatten.length ≤ n)

theorem exists_covered {α : Type} {l : List (List α)} {n : Nat} (inside : n < l.flatten.length) :
    ∃ i < l.length, (l.take i).flatten.length ≤ n ∧ n < (l.take (i + 1)).flatten.length := by
  induction l using List.reverseRecOn with
  | nil => cases inside
  | append_singleton l x ih =>
    by_cases before : n < l.flatten.length
    · obtain ⟨i, small, low, high⟩ := ih before
      refine ⟨i, by simp; omega, ?_, ?_⟩
      · rwa [List.take_append_of_le_length (Nat.le_of_lt small)]
      · rwa [List.take_append_of_le_length small]
    · refine ⟨l.length, by simp, ?_, ?_⟩
      · rw [List.take_left]
        omega
      · rwa [List.take_of_length_le (by simp)]

/-- Once the worker has nothing in its hands it has parted with a batch that shows the
measurement, whatever the temporality. -/
theorem exists_ending (run : Run (.build settings built) events y)
    (idle : y.channel.receiver.isHolding = false) {n : Nat}
    (taken : n < (ledger events).taken.flatten.length) :
    ∃ left e right, events = left ++ e :: right ∧ Event.parts e = true ∧
      ∀ t, Covers t (ledger (left ++ [e])).taken n := by
  obtain ⟨i, inside, low, high⟩ := exists_covered taken
  rcases isOver_of_run run inside with ⟨left, e, right, rfl, count, parts⟩ | ⟨held, _⟩
  · refine ⟨left, e, right, rfl, parts, fun t => ?_⟩
    obtain ⟨rest, whole⟩ := prefix_windows (left ++ [e]) right
    rw [← List.append_cons] at whole
    have all : (ledger (left ++ e :: right)).taken.take (i + 1) = (ledger (left ++ [e])).taken := by
      rw [← whole, ← count, List.take_left]
    have most : (ledger (left ++ e :: right)).taken.take i = (ledger (left ++ [e])).taken.dropLast := by
      rw [← whole, List.take_append_of_le_length (by omega), List.dropLast_eq_take, count]
      rfl
    rw [all] at high
    rw [most] at low
    exact ⟨high, fun _ => low⟩
  · cases idle.symm.trans held

end Telemetry.Provider
