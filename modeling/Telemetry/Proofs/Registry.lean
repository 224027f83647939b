import Mathlib.Data.List.Nodup
import Telemetry.Proofs.Aggregation.Fill
import Telemetry.Proofs.Instrument

/-! Registrations with the meters of one provider, one after the other. What came of the attempts
so far decides about the next one, and an id stands for one instrument. Main results:
`Registry.attempts_decided` and `Registry.Reflects.genuine`. -/
namespace Telemetry

namespace Meter

/-- What a meter lets in: sound requests for names that are not taken. -/
structure Admits (m : Meter) (request : InstrumentRequest) : Prop where
  sound : request.Sound
  free : m.isTaken request.name = false

variable {m : Meter} {request : InstrumentRequest}

/-- The three checks of a registration, in their order, and what it leaves. -/
theorem run_register (m : Meter) (nextId : Nat) (request : InstrumentRequest) :
    (register request).run ⟨m, nextId⟩ =
      if Instrument.isValidName request.name then
        match boundariesOf request with
        | .error e => .error e ⟨m, nextId⟩
        | .ok bounds =>
          if m.isTaken request.name then
            .error (.duplicateInstrument request.name m.scope.name) ⟨m, nextId⟩
          else
            .ok ⟨nextId, request.name, request.kind, request.unit, request.description, m.scope,
                bounds⟩
              ⟨m.take request.name request.kind, nextId + 1⟩
      else .error (.invalidInstrumentName request.name) ⟨m, nextId⟩ := by
  unfold register
  cases Instrument.isValidName request.name with
  | false => rfl
  | true =>
    cases boundariesOf request with
    | error e => rfl
    | ok bounds =>
      cases taken : m.isTaken request.name with
      | true => simp [MonadExcept.ofExcept, taken]
      | false => simp [MonadExcept.ofExcept, taken, -bind_pure_comp]

theorem run_register_of_admits (admits : m.Admits request) (nextId : Nat) :
    (register request).run ⟨m, nextId⟩ =
      .ok ⟨nextId, request.name, request.kind, request.unit, request.description, m.scope,
          request.bounds?⟩
        ⟨m.take request.name request.kind, nextId + 1⟩ := by
  have name := (Instrument.isValidName_iff request.name).mpr admits.sound.name
  have bounds := (boundariesOf_eq_ok_iff request _).mpr ⟨rfl, admits.sound.bounds⟩
  have free := Bool.eq_false_iff.mp admits.free
  rw [run_register, if_pos name, bounds]
  exact if_neg free

/-- A refused request leaves the state as it was. -/
theorem run_register_of_not_admits (refused : ¬m.Admits request) (nextId : Nat) :
    ∃ e, (register request).run ⟨m, nextId⟩ = .error e ⟨m, nextId⟩ := by
  rw [run_register]
  by_cases name : Instrument.isValidName request.name = true
  · rw [if_pos name]
    cases checked : boundariesOf request with
    | error e => exact ⟨e, rfl⟩
    | ok bounds =>
      have increasing := ((boundariesOf_eq_ok_iff request bounds).mp checked).2
      have sound : request.Sound := ⟨(Instrument.isValidName_iff request.name).mp name, increasing⟩
      have taken : m.isTaken request.name = true := by
        by_contra free
        exact refused ⟨sound, Bool.eq_false_iff.mpr free⟩
      exact ⟨_, if_pos taken⟩
  · exact ⟨_, if_neg name⟩

theorem isTaken_take (name other : String) (kind : InstrumentKind) :
    (m.take name kind).isTaken other = true ↔ m.isTaken other = true ∨ SameName name other := by
  unfold take isTaken
  rw [List.any_append, Bool.or_eq_true, List.any_cons, List.any_nil, Bool.or_false, beq_iff_eq,
    nameKey_eq_iff]

end Meter

namespace Registry

section Registration

variable {r next : Registry} {place : Nat} {request : InstrumentRequest}
  {result : Except Error Instrument}

/-- A registration gives an instrument and takes its name, or fails and changes nothing. -/
theorem register_cases (registered : r.register place request = some (result, next)) :
    ∃ m, r.meters[place]? = some m ∧
      (m.Admits request ∧
        result = .ok ⟨r.nextId, request.name, request.kind, request.unit, request.description,
          m.scope, request.bounds?⟩ ∧
        next = ⟨r.meters.set place (m.take request.name request.kind), r.nextId + 1⟩ ∨
      ¬m.Admits request ∧ (∃ e, result = .error e) ∧ next = r) := by
  obtain ⟨m, there, made⟩ := Option.map_eq_some_iff.mp registered
  refine ⟨m, there, ?_⟩
  by_cases admits : m.Admits request
  · rw [Meter.run_register_of_admits admits] at made
    cases made
    exact .inl ⟨admits, rfl, rfl⟩
  · obtain ⟨e, refused⟩ := Meter.run_register_of_not_admits admits r.nextId
    rw [refused] at made
    cases made
    obtain ⟨inside, rfl⟩ := List.getElem?_eq_some_iff.mp there
    exact .inr ⟨admits, ⟨e, rfl⟩, congrArg (Registry.mk · r.nextId) (List.set_getElem_self inside)⟩

theorem eq_of_register_error {e : Error}
    (failed : r.register place request = some (.error e, next)) : next = r := by
  obtain ⟨_, _, ⟨_, succeeded, _⟩ | ⟨_, _, unchanged⟩⟩ := register_cases failed
  · cases succeeded
  · exact unchanged

theorem length_meters_of_register (registered : r.register place request = some (result, next)) :
    next.meters.length = r.meters.length := by
  obtain ⟨_, _, ⟨_, _, rfl⟩ | ⟨_, _, rfl⟩⟩ := register_cases registered
  · exact List.length_set
  · rfl

end Registration

/-- What a provider is called for: another meter, or an instrument of the meter at a place. -/
inductive Call where
  | addMeter (scope : Scope)
  | register (place : Nat) (request : InstrumentRequest)

/-- A registration that was tried, with its result. -/
structure Attempt where
  place : Nat
  request : InstrumentRequest
  result : Except Error Instrument

def Attempt.Succeeded (a : Attempt) : Prop := ∃ i, a.result = .ok i

def Attempt.issued? (a : Attempt) : Option Instrument := a.result.toOption

/-- The calls one after the other, with the log of the attempts among them. -/
def run (r : Registry) : List Call → Registry × List Attempt
  | [] => (r, [])
  | .addMeter scope :: later => run (r.addMeter scope).1 later
  | .register place request :: later =>
    match r.register place request with
    | none => run r later
    | some (result, next) =>
      ((run next later).1, ⟨place, request, result⟩ :: (run next later).2)

/-- The registrations among calls, each with a meter that is there, where `meters` were there
before. -/
def asked (meters : Nat) : List Call → List (Nat × InstrumentRequest)
  | [] => []
  | .addMeter _ :: later => asked (meters + 1) later
  | .register place request :: later =>
    if place < meters then (place, request) :: asked meters later else asked meters later

/-- A name is used in a meter when an attempt with it succeeded there, whatever its kind. -/
def Used (log : List Attempt) (place : Nat) (name : String) : Prop :=
  ∃ a ∈ log, a.place = place ∧ a.Succeeded ∧ SameName a.request.name name

/-- What makes an attempt succeed after the attempts of a log. -/
structure Welcome (log : List Attempt) (place : Nat) (request : InstrumentRequest) : Prop where
  sound : request.Sound
  unused : ¬Used log place request.name

/-- A registry knows of the attempts so far which names are used and how many ids were given. -/
structure Reflects (log : List Attempt) (r : Registry) : Prop where
  places : ∀ a ∈ log, a.place < r.meters.length
  names : ∀ place m, r.meters[place]? = some m → ∀ name,
    m.isTaken name = true ↔ Used log place name
  ids : (log.filterMap Attempt.issued?).map Instrument.id = List.range r.nextId

section Log

variable {r next : Registry} {log : List Attempt} {place : Nat} {m : Meter}
  {request : InstrumentRequest}

theorem used_append (log : List Attempt) (a : Attempt) (place : Nat) (name : String) :
    Used (log ++ [a]) place name ↔
      Used log place name ∨ a.place = place ∧ a.Succeeded ∧ SameName a.request.name name := by
  unfold Used
  simp only [List.mem_append, List.mem_singleton, or_and_right, exists_or, exists_eq_left]

theorem Reflects.empty : Reflects [] .empty where
  places _ member := absurd member List.not_mem_nil
  names _ _ there := absurd (List.mem_of_getElem? there) List.not_mem_nil
  ids := rfl

theorem Reflects.admits_iff (reflects : Reflects log r) (there : r.meters[place]? = some m) :
    m.Admits request ↔ Welcome log place request := by
  have names := (reflects.names place m there request.name).not
  rw [Bool.not_eq_true] at names
  constructor
  · rintro ⟨sound, free⟩
    exact ⟨sound, names.mp free⟩
  · rintro ⟨sound, unused⟩
    exact ⟨sound, names.mpr unused⟩

theorem Reflects.addMeter (reflects : Reflects log r) (scope : Scope) :
    Reflects log (r.addMeter scope).1 where
  places a member := by
    have inside := reflects.places a member
    change a.place < (r.meters ++ [Meter.ofScope scope]).length
    rw [List.length_append]
    omega
  names place m there name := by
    change (r.meters ++ [Meter.ofScope scope])[place]? = some m at there
    by_cases inside : place < r.meters.length
    · rw [List.getElem?_append_left inside] at there
      exact reflects.names place m there name
    · rw [List.getElem?_append_right (Nat.le_of_not_lt inside)] at there
      rw [List.mem_singleton.mp (List.mem_of_getElem? there)]
      refine iff_of_false Bool.false_ne_true ?_
      rintro ⟨a, member, rfl, _⟩
      exact inside (reflects.places a member)
  ids := reflects.ids

theorem Reflects.refused (reflects : Reflects log r) (there : r.meters[place]? = some m)
    (e : Error) : Reflects (log ++ [⟨place, request, .error e⟩]) r where
  places := by
    rw [List.forall_mem_append, List.forall_mem_singleton]
    exact ⟨reflects.places, (List.getElem?_eq_some_iff.mp there).1⟩
  names other m' here name := by
    rw [reflects.names other m' here name, used_append]
    exact (or_iff_left fun failed => nomatch failed.2.1).symm
  ids := by
    rw [List.filterMap_append]
    exact (congrArg _ (List.append_nil _)).trans reflects.ids

theorem Reflects.accepted (reflects : Reflects log r) (there : r.meters[place]? = some m)
    {i : Instrument} (fresh : i.id = r.nextId) :
    Reflects (log ++ [⟨place, request, .ok i⟩])
      ⟨r.meters.set place (m.take request.name request.kind), r.nextId + 1⟩ where
  places := by
    rw [List.forall_mem_append, List.forall_mem_singleton, List.length_set]
    exact ⟨reflects.places, (List.getElem?_eq_some_iff.mp there).1⟩
  names other m' here name := by
    have inside := (List.getElem?_eq_some_iff.mp there).1
    rw [used_append]
    by_cases same : place = other
    · subst same
      rw [List.getElem?_set_self inside] at here
      cases here
      rw [Meter.isTaken_take, reflects.names place m there name]
      exact or_congr_right ⟨fun equal => ⟨rfl, ⟨i, rfl⟩, equal⟩, fun last => last.2.2⟩
    · rw [List.getElem?_set_ne same] at here
      rw [reflects.names other m' here name]
      exact (or_iff_left fun last => same last.1).symm
  ids := by
    rw [List.filterMap_append, List.map_append, reflects.ids, List.range_succ, ← fresh]
    rfl

/-- The log so far decides about an attempt, and knows the registry that it leaves. -/
theorem Reflects.attempt (reflects : Reflects log r) {result : Except Error Instrument}
    (registered : r.register place request = some (result, next)) :
    (Attempt.Succeeded ⟨place, request, result⟩ ↔ Welcome log place request) ∧
      Reflects (log ++ [⟨place, request, result⟩]) next := by
  obtain ⟨m, there, ⟨admits, rfl, rfl⟩ | ⟨refused, ⟨e, rfl⟩, rfl⟩⟩ := register_cases registered
  · have welcome := (reflects.admits_iff there).mp admits
    exact ⟨iff_of_true ⟨_, rfl⟩ welcome, reflects.accepted there rfl⟩
  · have unwelcome := (reflects.admits_iff there).not.mp refused
    exact ⟨iff_of_false nofun unwelcome, reflects.refused there e⟩

theorem Reflects.run (reflects : Reflects log r) (calls : List Call) :
    Reflects (log ++ (r.run calls).2) (r.run calls).1 := by
  induction calls generalizing log r with
  | nil => rwa [Registry.run, List.append_nil]
  | cons call later ih =>
    cases call with
    | addMeter scope => exact ih (reflects.addMeter scope)
    | register place request =>
      rw [Registry.run]
      split
      next => exact ih reflects
      next result next registered =>
        have rest := ih (reflects.attempt registered).2
        rwa [List.append_assoc] at rest

theorem Reflects.decided (reflects : Reflects log r) (calls : List Call)
    {before after : List Attempt} {a : Attempt} (split : (r.run calls).2 = before ++ a :: after) :
    a.Succeeded ↔ Welcome (log ++ before) a.place a.request := by
  induction calls generalizing log r before with
  | nil => simp [Registry.run] at split
  | cons call later ih =>
    cases call with
    | addMeter scope => exact ih (reflects.addMeter scope) split
    | register place request =>
      rw [Registry.run] at split
      split at split
      next => exact ih reflects split
      next result next registered =>
        -- The log decides about the first attempt, and with it about the later ones.
        obtain ⟨verdict, known⟩ := reflects.attempt registered
        cases before with
        | nil =>
          cases split
          rw [List.append_nil]
          exact verdict
        | cons first before =>
          obtain ⟨rfl, rest⟩ := List.cons.inj split
          have decided := ih known rest
          rwa [List.append_assoc] at decided

theorem Reflects.nodup_ids (reflects : Reflects log r) :
    ((log.filterMap Attempt.issued?).map Instrument.id).Nodup := by
  rw [reflects.ids]
  exact List.nodup_range

/-- An attempt uses up one id at most. -/
theorem Reflects.id_lt (reflects : Reflects log r) {i : Instrument}
    (member : i ∈ log.filterMap Attempt.issued?) : i.id < log.length := by
  have known : i.id ∈ (log.filterMap Attempt.issued?).map Instrument.id := List.mem_map_of_mem member
  have given := congrArg List.length reflects.ids
  have most := List.length_filterMap_le Attempt.issued? log
  rw [reflects.ids, List.mem_range] at known
  rw [List.length_map, List.length_range] at given
  omega

/-- Measurements made with issued instruments, each of values of its kind, are genuine. -/
theorem Reflects.genuine (reflects : Reflects log r) {ms : List Measurement}
    (made : ∀ m ∈ ms, m.instrument ∈ log.filterMap Attempt.issued?)
    (fit : ∀ m ∈ ms, m.value.kind = m.instrument.kind) : Measurement.Genuine ms where
  instrument m hm n hn same :=
    List.inj_on_of_nodup_map reflects.nodup_ids (made m hm) (made n hn) same
  kind := fit

end Log

/-- The registry after calls on a new provider. -/
def reached (calls : List Call) : Registry := (empty.run calls).1

/-- The attempts among calls on a new provider. -/
def history (calls : List Call) : List Attempt := (empty.run calls).2

theorem reflects_history (calls : List Call) : Reflects (history calls) (reached calls) :=
  Reflects.empty.run calls

theorem run_append (r : Registry) (before later : List Call) :
    r.run (before ++ later) =
      (((r.run before).1.run later).1, (r.run before).2 ++ ((r.run before).1.run later).2) := by
  induction before generalizing r with
  | nil => rfl
  | cons call before ih =>
    cases call with
    | addMeter scope => exact ih _
    | register place request =>
      rw [List.cons_append, run, run]
      cases r.register place request with
      | none => exact ih r
      | some made => simp only [ih, List.cons_append]

theorem asked_run (r : Registry) (calls : List Call) :
    (r.run calls).2.map (fun a => (a.place, a.request)) = asked r.meters.length calls := by
  induction calls generalizing r with
  | nil => rfl
  | cons call later ih =>
    cases call with
    | addMeter scope =>
      have meters : (r.addMeter scope).1.meters.length = r.meters.length + 1 := List.length_append
      rw [asked, ← meters]
      exact ih _
    | register place request =>
      rw [asked, run]
      cases registered : r.register place request with
      | none =>
        have absent := List.getElem?_eq_none_iff.mp (Option.map_eq_none_iff.mp registered)
        rw [if_neg (Nat.not_lt_of_le absent)]
        exact ih r
      | some made =>
        obtain ⟨m, there, _⟩ := register_cases registered
        have inside := (List.getElem?_eq_some_iff.mp there).1
        rw [if_pos inside, List.map_cons, ih, length_meters_of_register registered]

/-- Without a failed registration the calls after it go as they did with it. -/
theorem run_failed {r next : Registry} {place : Nat} {request : InstrumentRequest} {e : Error}
    (failed : r.register place request = some (.error e, next)) (later : List Call) :
    r.run (.register place request :: later) =
      ((r.run later).1, ⟨place, request, .error e⟩ :: (r.run later).2) := by
  have same := eq_of_register_error failed
  rw [run, failed, same]

/-- In the history of a provider stand the attempts that were asked for. An attempt succeeds exactly
where its request is sound and its name unused in its meter. The ids of the instruments differ, and
are less than the number of attempts. A failed attempt leaves the registry as it was: without it
the history is the same but for the attempt itself. -/
theorem attempts_decided (calls : List Call) :
    (history calls).map (fun a => (a.place, a.request)) = asked 0 calls ∧
      (∀ before a later, history calls = before ++ a :: later →
        (a.Succeeded ↔ Welcome before a.place a.request)) ∧
      (((history calls).filterMap Attempt.issued?).map Instrument.id).Nodup ∧
      (∀ i ∈ (history calls).filterMap Attempt.issued?, i.id < (history calls).length) ∧
      ∀ before place request later e next, calls = before ++ .register place request :: later →
        (reached before).register place request = some (.error e, next) →
        next = reached before ∧ reached (before ++ later) = reached calls ∧
          ∃ rest, history calls = history before ++ ⟨place, request, .error e⟩ :: rest ∧
            history (before ++ later) = history before ++ rest := by
  have reflects := reflects_history calls
  refine ⟨asked_run empty calls, fun before a later => Reflects.empty.decided calls,
    reflects.nodup_ids, fun i => reflects.id_lt, ?_⟩
  rintro before place request later e next rfl failed
  have whole := run_append empty before (.register place request :: later)
  rw [← reached, run_failed failed later] at whole
  have without := run_append empty before later
  refine ⟨eq_of_register_error failed, ?_, ((reached before).run later).2, ?_, ?_⟩
  · exact (congrArg Prod.fst without).trans (congrArg Prod.fst whole).symm
  · exact congrArg Prod.snd whole
  · exact congrArg Prod.snd without

/-- A name that differs in case alone, the same name in another meter, and bounds that fall. -/
def twoMeters : List Call :=
  [.addMeter (.ofName "a"), .addMeter (.ofName "b"),
    .register 0 { name := "Requests", kind := .counter },
    .register 0 { name := "requests", kind := .histogram },
    .register 1 { name := "requests", kind := .histogram },
    .register 1 { name := "delays", kind := .histogram, boundaries := some [.ofNat 2, .ofNat 1] },
    .register 1 { name := "delays", kind := .histogram }]

theorem attempts_decided_twoMeters :
    (history twoMeters).map (fun a => a.issued?.map Instrument.id) =
        [some 0, none, some 1, none, some 2] ∧
      ∃ rest,
        history twoMeters = history (twoMeters.take 3) ++
          ⟨0, { name := "requests", kind := .histogram },
            .error (.duplicateInstrument "requests" "a")⟩ :: rest ∧
        history (twoMeters.take 3 ++ twoMeters.drop 4) = history (twoMeters.take 3) ++ rest := by
  have failed : (reached (twoMeters.take 3)).register 0 { name := "requests", kind := .histogram } =
      some (.error (.duplicateInstrument "requests" "a"), reached (twoMeters.take 3)) := rfl
  obtain ⟨_, _, _, _, traceless⟩ := attempts_decided twoMeters
  obtain ⟨_, _, without⟩ := traceless _ 0 _ (twoMeters.drop 4) _ _ rfl failed
  exact ⟨rfl, without⟩

end Registry
end Telemetry
