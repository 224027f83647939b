import Mathlib.Data.List.Basic
import Telemetry.Shutdown.Coordinator

/-! What a shutdown reaches, and by when. It is run once more in surroundings that keep the calls
that are made in them, and these are followed from the clock's reading at the start. Main result:
`run_reaches_every_sink`. -/
namespace Telemetry.Shutdown

variable {σ α β : Type}

/-- A call that a shutdown makes, and what came of it. Nothing is a panic. -/
inductive Act (α : Type) where
  | shutDown (given : Duration) (outcome : Option ShutdownOutcome)
  | flush (sink : α) (given : Duration) (answer : Option Bool)
  | log (n : Notice) (done : Option Unit)

inductive Party (α : Type) where
  | provider
  | sink (a : α)

namespace Act

/-- Who is asked for something. A logger is only told. -/
def party? : Act α → Option (Party α)
  | shutDown _ _ => some .provider
  | flush a _ _ => some (.sink a)
  | log _ _ => none

/-- The time that a call is given. -/
def given? : Act α → Option Duration
  | shutDown given _ | flush _ given _ => some given
  | log _ _ => none

/-- What a sink answers to a flush. -/
def answer? : Act α → Option (Option Bool)
  | flush _ _ answer => some answer
  | shutDown _ _ | log _ _ => none

/-- No sink answers otherwise than that it is flushed. -/
def isDone (act : Act α) : Bool := act.answer?.all (· == some true)

end Act

/-- A call between two readings of the clock. -/
structure Call (α : Type) where
  act : Act α
  began : Instant
  ended : Instant

/-- The call takes no longer than it is given, and no time where it is given none. -/
def Call.IsInTime (c : Call α) : Prop := c.ended.since c.began ≤ c.act.given?.getD .zero

instance (c : Call α) : Decidable c.IsInTime :=
  inferInstanceAs (Decidable (c.ended.since c.began ≤ c.act.given?.getD .zero))

/-- Makes a call and keeps it. -/
def watch (now : σ → Instant) (act : β → Act α) (call : StateM σ β) :
    StateM (σ × List (Call α)) β := fun (s, calls) =>
  let (result, after) := call s
  (result, after, calls ++ [⟨act result, now s, now after⟩])

/-- The same surroundings, which keep the calls. -/
def Surroundings.watched (e : Surroundings σ α) : Surroundings (σ × List (Call α)) α where
  now s := e.now s.1
  shutDown := e.shutDown.map fun shutDown given => watch e.now (.shutDown given) (shutDown given)
  flush a given := watch e.now (.flush a given) (e.flush a given)
  log n := watch e.now (.log n) (e.log n)

/-- Calls that follow one another from one reading of the clock to another. -/
inductive Linked : Instant → List (Call α) → Instant → Prop where
  | nil {t : Instant} : Linked t [] t
  | cons {c : Call α} {rest : List (Call α)} {last : Instant} :
    Linked c.ended rest last → Linked c.began (c :: rest) last

theorem Linked.append {first middle last : Instant} {l m : List (Call α)}
    (left : Linked first l middle) (right : Linked middle m last) : Linked first (l ++ m) last := by
  induction left with
  | nil => exact right
  | cons _ ih => exact .cons (ih right)

section
variable {e : Surroundings σ α} {deadline : Duration} {began : Instant} {s middle after : σ}
  {calls more : List (Call α)} {parties others : List (Party α)} {done also : Bool}

/-- No call is begun after the deadline with time left, so those that are in time end before it. -/
theorem Linked.le_deadline {first last : Instant} (linked : Linked first calls last)
    (given : ∀ c ∈ calls, ∀ given ∈ c.act.given?, given = deadline.remaining (c.began.since began))
    (inTime : ∀ c ∈ calls, c.IsInTime) (early : first ≤ began + deadline) :
    last ≤ began + deadline := by
  induction linked with
  | nil => exact early
  | @cons c rest last _ ih =>
    refine ih (fun d member => given d (List.mem_cons_of_mem c member))
      (fun d member => inTime d (List.mem_cons_of_mem c member)) ?_
    have own := given c List.mem_cons_self
    have short : c.ended.nanos - c.began.nanos ≤ (c.act.given?.getD .zero).nanos :=
      inTime c List.mem_cons_self
    change c.began.nanos ≤ began.nanos + deadline.nanos at early
    change c.ended.nanos ≤ began.nanos + deadline.nanos
    cases allowed : c.act.given? with
    | none =>
      have zero : (c.act.given?.getD .zero).nanos = 0 := by rw [allowed]; rfl
      omega
    | some time =>
      have left : (c.act.given?.getD .zero).nanos =
          deadline.nanos - (c.began.nanos - began.nanos) := by
        rw [allowed, Option.getD_some, own time allowed]
        rfl
      omega

variable (e deadline began) in
/-- A stretch of a shutdown between two states: its calls in order, who was asked in them, and
whether all sinks among these were flushed. -/
structure Stretch (parties : List (Party α)) (done : Bool) (s : σ) (calls : List (Call α))
    (after : σ) : Prop where
  parties : calls.filterMap (·.act.party?) = parties
  done : calls.all (·.act.isDone) = done
  given : ∀ c ∈ calls, ∀ given ∈ c.act.given?, given = deadline.remaining (c.began.since began)
  linked : Linked (e.now s) calls (e.now after)

namespace Stretch

theorem nil : Stretch e deadline began [] true s [] s :=
  ⟨rfl, rfl, fun _ member => absurd member List.not_mem_nil, .nil⟩

theorem one (act : Act α)
    (given : ∀ given ∈ act.given?, given = deadline.remaining ((e.now s).since began)) :
    Stretch e deadline began act.party?.toList act.isDone s [⟨act, e.now s, e.now after⟩] after where
  parties := by cases act <;> rfl
  done := Bool.and_true _
  given c member := by
    obtain rfl := List.mem_singleton.mp member
    exact given
  linked := Linked.cons (c := ⟨act, e.now s, e.now after⟩) .nil

theorem append (first : Stretch e deadline began parties done s calls middle)
    (second : Stretch e deadline began others also middle more after) :
    Stretch e deadline began (parties ++ others) (done && also) s (calls ++ more) after where
  parties := by rw [List.filterMap_append, first.parties, second.parties]
  done := by rw [List.all_append, first.done, second.done]
  given c member := by
    rcases List.mem_append.mp member with before | behind
    · exact first.given c before
    · exact second.given c behind
  linked := first.linked.append second.linked

end Stretch

variable (e deadline began)

/-! Keeping the calls changes nothing else. -/

theorem tell_watched (n : Notice) (s : σ) (earlier : List (Call α)) :
    ∃ calls, tell e.watched n (s, earlier) = ((), (tell e n s).2, earlier ++ calls) ∧
      Stretch e deadline began [] true s calls (tell e n s).2 :=
  ⟨[⟨.log n (e.log n s).1, e.now s, e.now (e.log n s).2⟩], rfl, .one (.log n (e.log n s).1) nofun⟩

theorem now_watched (s : σ) (earlier : List (Call α)) : e.watched.now (s, earlier) = e.now s := rfl

theorem flush_watched (sink : α) (given : Duration) (s : σ) (earlier : List (Call α)) :
    e.watched.flush sink given (s, earlier) =
      ((e.flush sink given s).1, (e.flush sink given s).2, earlier ++
        [⟨.flush sink given (e.flush sink given s).1, e.now s, e.now (e.flush sink given s).2⟩]) :=
  rfl

theorem flushOne_eq (place : Nat) (sink : α) (s : σ) :
    flushOne e deadline began place sink s =
      let (answer, s₁) := e.flush sink (deadline.remaining ((e.now s).since began)) s
      match answer with
      | some true => (true, s₁)
      | some false => (false, (tell e (.sinkLate place) s₁).2)
      | none => (false, (tell e (.sinkPanicked place) s₁).2) := by
  change (match e.flush sink (deadline.remaining ((e.now s).since began)) s with
    | (answer, s₁) => (match answer with
      | some true => pure true
      | some false => do
        tell e (.sinkLate place)
        pure false
      | none => do
        tell e (.sinkPanicked place)
        pure false : StateM σ Bool) s₁) = _
  rcases e.flush sink (deadline.remaining ((e.now s).since began)) s with ⟨_ | _ | _, s₁⟩ <;> rfl

theorem flushOne_watched (place : Nat) (sink : α) (s : σ) (earlier : List (Call α)) :
    ∃ calls, flushOne e.watched deadline began place sink (s, earlier) =
        ((flushOne e deadline began place sink s).1, (flushOne e deadline began place sink s).2,
          earlier ++ calls) ∧
      Stretch e deadline began [.sink sink] (flushOne e deadline began place sink s).1 s calls
        (flushOne e deadline began place sink s).2 := by
  rw [flushOne_eq, flushOne_eq, now_watched, flush_watched]
  generalize left : deadline.remaining ((e.now s).since began) = given
  rcases e.flush sink given s with ⟨answer, s₁⟩
  let own : Call α := ⟨.flush sink given answer, e.now s, e.now s₁⟩
  have asked : Stretch e deadline began [.sink sink] own.act.isDone s [own] s₁ :=
    .one own.act fun _ same => (Option.some.inj same).symm.trans left.symm
  have unfinished (n : Notice) (failed : own.act.isDone = false) :
      ∃ calls, (false, (tell e.watched n (s₁, earlier ++ [own])).2) =
          (false, (tell e n s₁).2, earlier ++ calls) ∧
        Stretch e deadline began [.sink sink] false s calls (tell e n s₁).2 := by
    obtain ⟨told, same, silent⟩ := tell_watched e deadline began n s₁ (earlier ++ [own])
    rw [failed] at asked
    refine ⟨[own] ++ told, ?_, asked.append silent⟩
    rw [← List.append_assoc]
    exact congrArg (fun after => (false, after.2)) same
  rcases answer with _ | _ | _
  · exact unfinished (.sinkPanicked place) rfl
  · exact unfinished (.sinkLate place) rfl
  · exact ⟨[own], rfl, asked⟩

theorem flushAll_cons (place : Nat) (sink : α) (rest : List α) (s : σ) :
    flushAll e deadline began place (sink :: rest) s =
      let (first, s₁) := flushOne e deadline began place sink s
      let (others, s₂) := flushAll e deadline began (place + 1) rest s₁
      (first && others, s₂) := rfl

theorem flushAll_watched (place : Nat) (sinks : List α) (s : σ) (earlier : List (Call α)) :
    ∃ calls, flushAll e.watched deadline began place sinks (s, earlier) =
        ((flushAll e deadline began place sinks s).1,
          (flushAll e deadline began place sinks s).2, earlier ++ calls) ∧
      Stretch e deadline began (sinks.map .sink) (flushAll e deadline began place sinks s).1 s calls
        (flushAll e deadline began place sinks s).2 := by
  induction sinks generalizing place s earlier with
  | nil => exact ⟨[], by rw [List.append_nil]; rfl, .nil⟩
  | cons sink rest ih =>
    obtain ⟨first, firstSame, here⟩ := flushOne_watched e deadline began place sink s earlier
    obtain ⟨others, othersSame, later⟩ := ih (place + 1)
      (flushOne e deadline began place sink s).2 (earlier ++ first)
    refine ⟨first ++ others, ?_, here.append later⟩
    rw [flushAll_cons, firstSame, ← List.append_assoc]
    dsimp only
    rw [othersSame]
    rfl

theorem shutDownProvider_watched (s : σ) :
    ∃ calls, shutDownProvider e.watched deadline (s, []) =
        ((shutDownProvider e deadline s).1, (shutDownProvider e deadline s).2, calls) ∧
      Stretch e deadline (e.now s) (if e.shutDown.isSome then [.provider] else []) true s calls
        (shutDownProvider e deadline s).2 := by
  have none : ((e.now s).since (e.now s)).nanos = 0 := Nat.sub_self _
  have whole : deadline = deadline.remaining ((e.now s).since (e.now s)) :=
    congrArg Duration.mk (by rw [none, Nat.sub_zero])
  unfold shutDownProvider Surroundings.watched
  cases e.shutDown with
  | none => exact ⟨[], rfl, .nil⟩
  | some shutDown =>
    refine ⟨_, rfl, ?_⟩
    exact .one (.shutDown deadline _) fun _ same => (Option.some.inj same).symm.trans whole

theorem run_eq (sinks : List α) (s : σ) : run e deadline sinks s =
    let provided := shutDownProvider e deadline s
    let flushed := flushAll e deadline (e.now s) 0 sinks
      (tell e (.providerEnded provided.1) provided.2).2
    (⟨provided.1, flushed.1, (e.now flushed.2).since (e.now s)⟩, flushed.2) := rfl

theorem run_watched (sinks : List α) (s : σ) :
    ∃ calls, run e.watched deadline sinks (s, []) =
        ((run e deadline sinks s).1, (run e deadline sinks s).2, calls) ∧
      Stretch e deadline (e.now s)
        ((if e.shutDown.isSome then [.provider] else []) ++ sinks.map .sink)
        (run e deadline sinks s).1.sinksFlushed s calls (run e deadline sinks s).2 := by
  obtain ⟨first, firstSame, provided⟩ := shutDownProvider_watched e deadline s
  obtain ⟨notice, noticeSame, told⟩ := tell_watched e deadline (e.now s)
    (.providerEnded (shutDownProvider e deadline s).1) (shutDownProvider e deadline s).2 first
  obtain ⟨flushes, flushesSame, flushed⟩ := flushAll_watched e deadline (e.now s) 0 sinks
    (tell e (.providerEnded (shutDownProvider e deadline s).1) (shutDownProvider e deadline s).2).2
    (first ++ notice)
  refine ⟨first ++ (notice ++ flushes), ?_, provided.append (told.append flushed)⟩
  rw [← List.append_assoc]
  simp only [run_eq, firstSame, noticeSame, now_watched, flushesSame]

/-- Whatever panics or fails on the way, a shutdown comes to its report, and has asked the provider,
where there is one, and then every sink once, in their order. Each was given what was left of the
deadline when it was asked. The report says whether all sinks answered that they were flushed. Where
nobody takes longer than they are given, and telling the logger takes no time, all is over by the
deadline. -/
theorem run_reaches_every_sink (sinks : List α) (s : σ) :
    let report := (run e deadline sinks s).1
    ∃ calls, run e.watched deadline sinks (s, []) = (report, (run e deadline sinks s).2, calls) ∧
      calls.filterMap (·.act.party?) =
        (if e.shutDown.isSome then [.provider] else []) ++ sinks.map .sink ∧
      (∀ c ∈ calls, ∀ given ∈ c.act.given?,
        (given.nanos : Int) =
          max 0 ((deadline.nanos : Int) - ((c.began.since (e.now s)).nanos : Int))) ∧
      (report.sinksFlushed = true ↔ ∀ c ∈ calls, ∀ answer ∈ c.act.answer?, answer = some true) ∧
      ((∀ c ∈ calls, c.IsInTime) → report.elapsed ≤ deadline) := by
  intro report
  obtain ⟨calls, same, stretch⟩ := run_watched e deadline sinks s
  refine ⟨calls, same, stretch.parties, fun c member given own => ?_, ?_, fun inTime => ?_⟩
  · rw [stretch.given c member given own]
    change ((deadline.nanos - (c.began.since (e.now s)).nanos : Nat) : Int) = _
    omega
  · have done : report.sinksFlushed = calls.all (·.act.isDone) := stretch.done.symm
    simp only [done, List.all_eq_true, Act.isDone, Option.all_eq_true, beq_iff_eq, Option.mem_def]
  · have ended := stretch.linked.le_deadline stretch.given inTime (Nat.le_add_right _ _)
    exact Nat.sub_le_iff_le_add'.mpr ended

end

/-- Surroundings in which the provider and the logger panic, and a file, too. The queue takes all the
time that it is given. -/
def panicking : Surroundings Instant String where
  now := id
  shutDown := some fun _ t => (none, t + Duration.ofMillis 2)
  flush sink given t :=
    if sink = "file" then (none, t + Duration.ofMillis 1)
    else if sink = "queue" then (some true, t + given)
    else (some (!given.isZero), t)
  log _ t := (none, t)

theorem run_reaches_every_sink_panicking :
    let deadline := Duration.ofMillis 5
    let sinks := ["file", "queue", "screen"]
    let calls := (run panicking.watched deadline sinks (.afterDay, [])).2.2
    calls.filterMap (·.act.party?) =
      [.provider, .sink "file", .sink "queue", .sink "screen"] ∧
    calls.filterMap (·.act.given?) = [.ofMillis 5, .ofMillis 3, .ofMillis 2, .zero] ∧
    (run panicking deadline sinks .afterDay).1.sinksFlushed = false ∧
    (∀ c ∈ calls, c.IsInTime) ∧ (run panicking deadline sinks .afterDay).1.elapsed ≤ deadline := by
  intro deadline sinks calls
  obtain ⟨seen, same, parties, given, flushed, bounded⟩ :=
    run_reaches_every_sink panicking deadline sinks .afterDay
  obtain rfl : calls = seen := congrArg (·.2.2) same
  have inTime : ∀ c ∈ calls, c.IsInTime := by decide +kernel
  exact ⟨parties, by decide, by decide, inTime, bounded inTime⟩

end Telemetry.Shutdown
