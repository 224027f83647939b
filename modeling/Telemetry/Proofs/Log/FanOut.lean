import Mathlib.Data.List.Basic
import Telemetry.Log.Logger

/-! How a tree of sinks hands on what it gets. Each record reaches every leaf once, the left ones
first. A flush asks every leaf once, in the same order, with the time that those before it have left
over. Main result: `Logger.reaches_every_leaf`. -/
namespace Telemetry.Log

variable {α σ : Type}

/-! ## Records -/

theorem Sink.emit_eq_map (r : Record) (t : Sink α) : t.emit r = t.leaves.map (·, r) := by
  induction t with
  | leaf a => rfl
  | empty => rfl
  | wrapped s ih => exact ih
  | both left right left_ih right_ih => rw [emit, leaves, List.map_append, left_ih, right_ih]

/-- What makes a logger of another one. -/
inductive Change where
  | scope (scope : String)
  | minLevel (level : Level)

namespace Change

def scope? : Change → Option String
  | scope s => some s
  | minLevel _ => none

def minLevel? : Change → Option Level
  | scope _ => none
  | minLevel level => some level

def apply (l : Logger α) : Change → Logger α
  | scope s => l.withScope s
  | minLevel level => l.withMinLevel level

end Change

namespace Logger

def derive (l : Logger α) (changes : List Change) : Logger α := changes.foldl Change.apply l

theorem sink_derive (l : Logger α) (changes : List Change) : (l.derive changes).sink = l.sink := by
  unfold derive
  induction changes generalizing l with
  | nil => rfl
  | cons change rest ih =>
    rw [List.foldl_cons, ih]
    cases change <;> rfl

/-- What only one kind of change touches is what the last change of that kind made it. -/
theorem derive_last {β : Type} (get : Logger α → β) (pick : Change → Option β)
    (step : ∀ l change, get (Change.apply l change) = (pick change).getD (get l)) (l : Logger α)
    (changes : List Change) :
    get (l.derive changes) = (changes.filterMap pick).getLastD (get l) := by
  unfold derive
  induction changes generalizing l with
  | nil => rfl
  | cons change rest ih =>
    rw [List.foldl_cons, ih, step]
    cases picked : pick change with
    | none => rw [List.filterMap_cons_none picked, Option.getD_none]
    | some value => rw [List.filterMap_cons_some picked, List.getLastD_cons, Option.getD_some]

theorem scope_derive (l : Logger α) (changes : List Change) :
    (l.derive changes).scope = (changes.filterMap Change.scope?).getLastD l.scope :=
  derive_last (·.scope) Change.scope? (fun _ change => by cases change <;> rfl) l changes

theorem minLevel_derive (l : Logger α) (changes : List Change) :
    (l.derive changes).minLevel = (changes.filterMap Change.minLevel?).getLastD l.minLevel :=
  derive_last (·.minLevel) Change.minLevel? (fun _ change => by cases change <;> rfl) l changes

end Logger

/-- A call through a logger that some changes have made of a first one. -/
structure LogCall where
  changes : List Change
  now : Timestamp
  level : Level
  message : String
  properties : List (String × Value)

namespace LogCall

def deliveries (l : Logger α) (c : LogCall) : List (α × Record) :=
  (l.derive c.changes).log c.now c.level c.message c.properties

/-- The record of a call. There is none below the minimum level, which like the scope is the last
one that was asked for. -/
def record? (l : Logger α) (c : LogCall) : Option Record :=
  if (c.changes.filterMap Change.minLevel?).getLastD l.minLevel ≤ c.level then
    some ⟨c.now, c.level, (c.changes.filterMap Change.scope?).getLastD l.scope, c.message,
      c.properties⟩
  else none

theorem deliveries_eq (l : Logger α) (c : LogCall) :
    c.deliveries l = (c.record? l).toList.flatMap fun r => l.sink.leaves.map (·, r) := by
  unfold deliveries record? Logger.log Logger.isEnabled
  rw [l.minLevel_derive, l.scope_derive, l.sink_derive]
  split_ifs with enabled disabled disabled
  · rw [Sink.emit_eq_map, Option.toList_some, List.flatMap_singleton]
  · exact absurd (of_decide_eq_true enabled) disabled
  · exact absurd (decide_eq_true disabled) enabled
  · rfl

theorem flatMap_deliveries (l : Logger α) (calls : List LogCall) :
    calls.flatMap (·.deliveries l) =
      (calls.filterMap (·.record? l)).flatMap fun r => l.sink.leaves.map (·, r) := by
  induction calls with
  | nil => rfl
  | cons c rest ih =>
    rw [List.flatMap_cons, ih, deliveries_eq]
    cases written : c.record? l <;> simp [written]

end LogCall

/-- The records that reach one leaf, as often as it stands in the tree. -/
theorem filter_flatMap_leaves [DecidableEq α] (a : α) (leaves : List α) (records : List Record) :
    ((records.flatMap fun r => leaves.map (·, r)).filter (·.1 = a)).map (·.2) =
      records.flatMap fun r => List.replicate (leaves.count a) r := by
  induction records with
  | nil => rfl
  | cons r rest ih =>
    have own : ((leaves.map (·, r)).filter (·.1 = a)).map (·.2) =
        List.replicate (leaves.count a) r := by
      rw [List.filter_map, List.map_map, List.eq_replicate_iff, List.length_map]
      exact ⟨List.count_eq_length_filter.symm, by simp⟩
    rw [List.flatMap_cons, List.filter_append, List.map_append, own, ih, List.flatMap_cons]

/-! ## Flushes -/

/-- What a leaf was asked, between two readings of the clock, and what became of it. -/
structure Request (α : Type) where
  leaf : α
  given : Duration
  done : Bool
  began : Instant
  ended : Instant
deriving DecidableEq

def Request.took (r : Request α) : Duration := r.ended.since r.began

/-- The same surroundings, which keep the requests. -/
def Surroundings.watched (e : Surroundings σ α) : Surroundings (σ × List (Request α)) α where
  now s := e.now s.1
  flush a given := fun (s, asked) =>
    let (done, after) := e.flush a given s
    (done, after, asked ++ [⟨a, given, done, e.now s, e.now after⟩])
  now_le a given s := e.now_le a given s.1

/-- How long the leaves took together. -/
def total : List (Request α) → Duration
  | [] => .zero
  | r :: rest => r.took + total rest

/-- Each leaf was given what those before it had left of a time. -/
def SharesOut : Duration → List (Request α) → Prop
  | _, [] => True
  | timeout, r :: rest => r.given = timeout ∧ SharesOut (timeout.remaining r.took) rest

theorem total_append (l m : List (Request α)) : total (l ++ m) = total l + total m := by
  induction l with
  | nil => exact congrArg Duration.mk (Nat.zero_add (total m).nanos).symm
  | cons r rest ih =>
    rw [List.cons_append, total, total, ih]
    exact congrArg Duration.mk (Nat.add_assoc ..).symm

theorem remaining_remaining (timeout d e : Duration) :
    (timeout.remaining d).remaining e = timeout.remaining (d + e) :=
  congrArg Duration.mk (Nat.sub_sub timeout.nanos d.nanos e.nanos)

theorem sharesOut_append {timeout : Duration} {l m : List (Request α)} :
    SharesOut timeout (l ++ m) ↔ SharesOut timeout l ∧ SharesOut (timeout.remaining (total l)) m := by
  induction l generalizing timeout with
  | nil =>
    have untouched : timeout.remaining (total ([] : List (Request α))) = timeout := rfl
    rw [List.nil_append, SharesOut, untouched, true_and]
  | cons r rest ih =>
    rw [List.cons_append, SharesOut, SharesOut, ih, total, remaining_remaining, and_assoc]

theorem SharesOut.given {timeout : Duration} {before after : List (Request α)} {r : Request α}
    (shares : SharesOut timeout (before ++ r :: after)) :
    r.given = timeout.remaining (total before) := (sharesOut_append.mp shares).2.1

/-- Leaves that keep to their own time keep to the whole one together. -/
theorem SharesOut.total_le {timeout : Duration} {asked : List (Request α)}
    (shares : SharesOut timeout asked) (inTime : ∀ r ∈ asked, r.took ≤ r.given) :
    total asked ≤ timeout := by
  induction asked generalizing timeout with
  | nil => exact Nat.zero_le _
  | cons r rest ih =>
    obtain ⟨rfl, later⟩ := shares
    have here : r.took.nanos ≤ r.given.nanos := inTime r List.mem_cons_self
    have others : (total rest).nanos ≤ r.given.nanos - r.took.nanos :=
      ih later fun q member => inTime q (List.mem_cons_of_mem r member)
    change r.took.nanos + (total rest).nanos ≤ r.given.nanos
    omega

/-- A flush of a tree asked its leaves in order and answers for all of them. By the clock it lasted as
long as they did. -/
structure Flushed (t : Sink α) (timeout : Duration) (asked : List (Request α)) (done : Bool)
    (began ended : Instant) : Prop where
  leaves : asked.map (·.leaf) = t.leaves
  shares : SharesOut timeout asked
  done : done = asked.all (·.done)
  lasted : ended = began + total asked

namespace Flushed

variable {left right t : Sink α} {timeout : Duration} {first second asked : List (Request α)}
  {a b done : Bool} {began middle ended : Instant}

theorem since_eq (flushed : Flushed t timeout asked done began ended) :
    ended.since began = total asked := by
  rw [flushed.lasted]
  exact congrArg Duration.mk (Nat.add_sub_cancel_left ..)

theorem leaf {l : α} (le : began ≤ ended) :
    Flushed (.leaf l) timeout [⟨l, timeout, done, began, ended⟩] done began ended where
  leaves := rfl
  shares := ⟨rfl, trivial⟩
  done := (Bool.and_true done).symm
  lasted := congrArg Instant.mk (Nat.add_sub_cancel' le).symm

theorem empty : Flushed (.empty : Sink α) timeout [] true began began :=
  ⟨rfl, trivial, rfl, rfl⟩

theorem wrapped (flushed : Flushed t timeout asked done began ended) :
    Flushed (.wrapped t) timeout asked done began ended :=
  ⟨flushed.leaves, flushed.shares, flushed.done, flushed.lasted⟩

theorem both (leftFlushed : Flushed left timeout first a began middle)
    (rightFlushed : Flushed right (timeout.remaining (middle.since began)) second b middle ended) :
    Flushed (.both left right) timeout (first ++ second) (a && b) began ended where
  leaves := by rw [List.map_append, leftFlushed.leaves, rightFlushed.leaves, Sink.leaves]
  shares := by
    have shares := rightFlushed.shares
    rw [leftFlushed.since_eq] at shares
    exact sharesOut_append.mpr ⟨leftFlushed.shares, shares⟩
  done := by rw [List.all_append, leftFlushed.done, rightFlushed.done]
  lasted := by
    rw [rightFlushed.lasted, leftFlushed.lasted, total_append]
    exact congrArg Instant.mk (Nat.add_assoc ..)

end Flushed

/-- Keeping the requests changes nothing else. -/
theorem Sink.flush_watched (e : Surroundings σ α) (t : Sink α) (timeout : Duration) (s : σ)
    (earlier : List (Request α)) :
    ∃ asked, t.flush e.watched timeout (s, earlier) =
        ((t.flush e timeout s).1, (t.flush e timeout s).2, earlier ++ asked) ∧
      Flushed t timeout asked (t.flush e timeout s).1 (e.now s) (e.now (t.flush e timeout s).2) := by
  induction t generalizing timeout s earlier with
  | leaf a => exact ⟨_, rfl, .leaf (e.now_le a timeout s)⟩
  | empty => exact ⟨[], by rw [List.append_nil]; rfl, .empty⟩
  | wrapped t ih =>
    obtain ⟨asked, same, flushed⟩ := ih timeout s earlier
    exact ⟨asked, same, flushed.wrapped⟩
  | both left right left_ih right_ih =>
    obtain ⟨first, leftSame, leftFlushed⟩ := left_ih timeout s earlier
    -- What the right side gets is read off the clock once the left side is through.
    obtain ⟨second, rightSame, rightFlushed⟩ := right_ih
      (timeout.remaining ((e.now (left.flush e timeout s).2).since (e.now s)))
      (left.flush e timeout s).2 (earlier ++ first)
    refine ⟨first ++ second, ?_, leftFlushed.both rightFlushed⟩
    rw [← List.append_assoc]
    show (let (a, middle) := left.flush e.watched timeout (s, earlier)
      let (b, after) := right.flush e.watched
        (timeout.remaining ((e.now middle.1).since (e.now s))) middle
      (a && b, after)) = _
    rw [leftSame]
    dsimp only
    rw [rightSame]
    rfl

/-- Through all loggers made of one, every leaf of its tree gets the records of the calls at or above
the minimum level of their logger, in the order of the calls, and of each record the left leaves come
first. A flush asks all leaves once, from left to right, whatever they answer, and says whether all of
them were done. Each is given what is left of the time when those before it are through, and by the
clock all of it lasts as long as they do. -/
theorem Logger.reaches_every_leaf [DecidableEq α] (l : Logger α) (calls : List LogCall)
    (changes : List Change) (e : Surroundings σ α) (timeout : Duration) (s : σ) :
    let records := calls.filterMap (·.record? l)
    let deliveries := calls.flatMap (·.deliveries l)
    let flushed := (l.derive changes).flush e timeout s
    (deliveries = records.flatMap fun r => l.sink.leaves.map (·, r)) ∧
    (∀ a, (deliveries.filter (·.1 = a)).map (·.2) =
      records.flatMap fun r => List.replicate (l.sink.leaves.count a) r) ∧
    ∃ asked, (l.derive changes).flush e.watched timeout (s, []) = (flushed.1, flushed.2, asked) ∧
      asked.map (·.leaf) = l.sink.leaves ∧
      flushed.1 = asked.all (·.done) ∧
      (e.now flushed.2).since (e.now s) = total asked ∧
      (∀ before r after, asked = before ++ r :: after →
        r.given = timeout.remaining (total before)) ∧
      ((∀ r ∈ asked, r.took ≤ r.given) → total asked ≤ timeout) := by
  intro records deliveries flushed
  have reached : deliveries = records.flatMap fun r => l.sink.leaves.map (·, r) :=
    LogCall.flatMap_deliveries l calls
  obtain ⟨asked, same, whole⟩ := (l.derive changes).sink.flush_watched e timeout s []
  refine ⟨reached, fun a => ?_, asked, same, ?_, whole.done, whole.since_eq, ?_,
    whole.shares.total_le⟩
  · rw [reached, filter_flatMap_leaves]
  · rw [whole.leaves, l.sink_derive]
  · rintro before r after rfl
    exact whole.shares.given

/-- A file that fails, a queue that uses its time up, and a screen that needs a little of it. -/
def unequal : Surroundings Instant String where
  now := id
  flush leaf given t :=
    (leaf != "file", t + if leaf = "queue" then given else given.shorter (.ofMillis 2))
  now_le _ _ t := Nat.le_add_right t.nanos _

/-- A tree in which the first leaf fails, the second one uses the time up and one sink is missing,
behind loggers of two minimum levels. -/
theorem Logger.reaches_every_leaf_nested :
    let tree : Sink String := .both (.wrapped (.both (.leaf "file") (.leaf "queue")))
      (.both (.ofOption none) (.ofOption (some (.leaf "screen"))))
    let l : Logger String := .ofSink "app" tree
    let quiet : List Change := [.minLevel .warn, .scope "app.db"]
    let calls : List LogCall := [⟨[], ⟨.zero⟩, .debug, "started", []⟩,
      ⟨quiet, ⟨.zero⟩, .info, "connected", []⟩, ⟨quiet, ⟨.zero⟩, .warn, "slow", []⟩]
    let asked : List (Request String) := [⟨"file", .ofMillis 5, false, ⟨0⟩, ⟨2000000⟩⟩,
      ⟨"queue", .ofMillis 3, true, ⟨2000000⟩, ⟨5000000⟩⟩,
      ⟨"screen", .zero, true, ⟨5000000⟩, ⟨5000000⟩⟩]
    ((calls.flatMap (·.deliveries l)).filter (·.1 = "queue")).map (·.2) =
      [⟨⟨.zero⟩, .debug, "app", "started", []⟩, ⟨⟨.zero⟩, .warn, "app.db", "slow", []⟩] ∧
    (l.derive quiet).flush unequal (.ofMillis 5) ⟨0⟩ = (false, ⟨5000000⟩) ∧
    (∀ r ∈ asked, r.took ≤ r.given) ∧ total asked ≤ .ofMillis 5 := by
  intro tree l quiet calls asked
  obtain ⟨-, received, seen, same, -, answer, -, -, bounded⟩ :=
    l.reaches_every_leaf calls quiet unequal (.ofMillis 5) ⟨0⟩
  obtain rfl : asked = seen := congrArg (·.2.2) same
  have inTime : ∀ r ∈ asked, r.took ≤ r.given := by decide
  refine ⟨?_, Prod.ext answer rfl, inTime, bounded inTime⟩
  rw [received "queue"]
  rfl

end Telemetry.Log
