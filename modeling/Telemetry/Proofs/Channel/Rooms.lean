import Mathlib.Data.List.DropRight
import Mathlib.Data.List.Rotate
import Mathlib.Order.Bounds.Basic
import Telemetry.Proofs.Channel.Ledger

/-! The room that a receiver sets aside with each batch that it takes. The sizes of the last sixteen
batches stay in a ring, so that the room is for the greatest of them, however many batches came
before. Main result: `rooms_slide`. -/
namespace Telemetry.Channel

variable {β ι ω : Type}

namespace Capacity

variable {c : Capacity}

/-- Where the next size goes. -/
def slot (c : Capacity) : Nat := c.calls.toNat % window

/-- The sizes in the ring, the oldest one first. -/
def held (c : Capacity) : List Nat := c.ring.rotate c.slot

/-- The capacity once it has seen sizes. -/
def after (c : Capacity) (sizes : List Nat) : Capacity := sizes.foldl (fun c size => (c.next size).2) c

/-- What it gives for sizes, one room for each. -/
def rooms (c : Capacity) : List Nat → List Nat
  | [] => []
  | size :: rest => (c.next size).1 :: (c.next size).2.rooms rest

theorem after_append (c : Capacity) (sizes more : List Nat) :
    c.after (sizes ++ more) = (c.after sizes).after more := List.foldl_append

theorem length_rooms (c : Capacity) (sizes : List Nat) : (c.rooms sizes).length = sizes.length := by
  induction sizes generalizing c with
  | nil => rfl
  | cons size rest ih => simp only [rooms, List.length_cons, ih]

theorem rooms_append (c : Capacity) (sizes more : List Nat) :
    c.rooms (sizes ++ more) = c.rooms sizes ++ (c.after sizes).rooms more := by
  induction sizes generalizing c with
  | nil => rfl
  | cons size rest ih => exact congrArg _ (ih _)

theorem getElem?_rooms (c : Capacity) (sizes : List Nat) (n : Nat) :
    (c.rooms sizes)[n]? = sizes[n]?.map fun size => ((c.after (sizes.take n)).next size).1 := by
  induction sizes generalizing c n with
  | nil => rfl
  | cons size rest ih =>
    cases n with
    | zero => rfl
    | succ n => exact ih _ n

theorem length_ring_after (whole : c.ring.length = window) (sizes : List Nat) :
    (c.after sizes).ring.length = window := by
  induction sizes generalizing c with
  | nil => exact whole
  | cons size rest ih => exact ih (List.length_set.trans whole)

/-- The number of calls wraps at a multiple of the window, so that the slots always follow one
another. -/
theorem slot_next (c : Capacity) (size : Nat) : (c.next size).2.slot = (c.slot + 1) % window := by
  have wrapped : (c.next size).2.calls.toNat = (c.calls.toNat + 1) % 2 ^ 64 :=
    UInt64.toNat_add c.calls 1
  simp only [slot, wrapped, window]
  omega

/-- A size takes the place of the oldest one. -/
theorem held_next (whole : c.ring.length = window) (size : Nat) :
    (c.next size).2.held = c.held.tail ++ [size] := by
  have inside : c.slot < c.ring.length := whole ▸ Nat.mod_lt _ (by decide)
  have oldest : c.ring.drop c.slot ≠ [] := List.ne_nil_of_length_pos (by simp; omega)
  -- The ring is cut behind the new size, which comes last once the two parts change places.
  have cut : c.ring.set c.slot size = (c.ring.take c.slot ++ [size]) ++ c.ring.drop (c.slot + 1) := by
    rw [List.set_eq_take_cons_drop size inside, List.append_assoc, List.singleton_append]
  have behind : (c.ring.take c.slot ++ [size]).length = c.slot + 1 := by
    simp [Nat.min_eq_left (Nat.le_of_lt inside)]
  have turned : (c.ring.set c.slot size).rotate (c.slot + 1) =
      c.ring.drop (c.slot + 1) ++ (c.ring.take c.slot ++ [size]) := by
    rw [cut, ← behind, List.rotate_append_length_eq]
  calc (c.next size).2.held
    _ = (c.ring.set c.slot size).rotate ((c.slot + 1) % (c.ring.set c.slot size).length) := by
      rw [held, slot_next, List.length_set, whole]
      rfl
    _ = c.ring.drop (c.slot + 1) ++ (c.ring.take c.slot ++ [size]) := by rw [List.rotate_mod, turned]
    _ = (c.ring.drop c.slot ++ c.ring.take c.slot).tail ++ [size] := by
      rw [List.tail_append_of_ne_nil oldest, List.tail_drop, List.append_assoc]
    _ = c.held.tail ++ [size] := by
      rw [held, List.rotate_eq_drop_append_take (Nat.le_of_lt inside)]

/-- The ring holds the last of all sizes, where as many ones as it has slots count as the first. -/
theorem held_after (sizes : List Nat) :
    (start.after sizes).held = (List.replicate window 1 ++ sizes).rtake window := by
  induction sizes using List.reverseRecOn with
  | nil => rfl
  | append_singleton sizes size ih =>
    have whole : (start.after sizes).ring.length = window := length_ring_after rfl sizes
    have shorter : ((List.replicate window 1 ++ sizes).rtake window).tail =
        (List.replicate window 1 ++ sizes).rtake (window - 1) := by
      simp only [List.rtake, List.tail_drop, List.length_append, List.length_replicate]
      congr 1
      simp only [window]
      omega
    calc (start.after (sizes ++ [size])).held
      _ = (start.after sizes).held.tail ++ [size] := by
        rw [after_append]
        exact held_next whole size
      _ = ((List.replicate window 1 ++ sizes) ++ [size]).rtake window := by
        rw [ih, shorter]
        exact (List.rtake_concat_succ ..).symm
      _ = _ := by rw [List.append_assoc]

theorem mem_held_after (sizes : List Nat) (size : Nat) : size ∈ (start.after sizes).held ↔
    size ∈ sizes.rtake window ∨ sizes.length < window ∧ size = 1 := by
  have ones : (List.replicate window 1 ++ sizes).rtake window =
      List.replicate (window - sizes.length) 1 ++ sizes.rtake window := by
    simp [List.rtake, List.drop_append]
  rw [held_after, ones, List.mem_append, List.mem_replicate, or_comm, Nat.sub_ne_zero_iff_lt]

theorem isGreatest_foldl_max {l : List Nat} (some : l ≠ []) :
    IsGreatest {x | x ∈ l} (l.foldl max 0) := by
  cases l with
  | nil => exact absurd rfl some
  | cons x rest =>
    rw [List.foldl_cons, Nat.zero_max]
    exact List.max?_eq_some_iff.mp List.max?_cons'

/-- The room is for the greatest of the sizes that are in the ring after the call. -/
theorem isGreatest_next (whole : c.ring.length = window) (size : Nat) :
    IsGreatest {x | x ∈ (c.next size).2.held} (c.next size).1 := by
  have same : (c.ring.set c.slot size).length = window := List.length_set.trans whole
  simp only [held, List.mem_rotate]
  exact isGreatest_foldl_max (List.ne_nil_of_length_pos (same ▸ by decide))

end Capacity

/-- Rooms over sizes in a window of sixteen: each is for the greatest of the last sizes, and for one
entry at least as long as there are fewer than sixteen. -/
structure Slides (sizes rooms : List Nat) : Prop where
  length : rooms.length = sizes.length
  greatest : ∀ n room, rooms[n]? = some room → IsGreatest
    {size | size ∈ (sizes.take (n + 1)).rtake 16 ∨ n + 1 < 16 ∧ size = 1} room

theorem Capacity.slides (sizes : List Nat) : Slides sizes (start.rooms sizes) where
  length := length_rooms start sizes
  greatest n room given := by
    rw [getElem?_rooms, Option.map_eq_some_iff] at given
    obtain ⟨size, here, rfl⟩ := given
    have inside : n < sizes.length := (List.getElem?_eq_some_iff.mp here).1
    have called : ((start.after (sizes.take n)).next size).2 = start.after (sizes.take (n + 1)) := by
      rw [List.take_add_one, here, after_append]
      rfl
    have number : (sizes.take (n + 1)).length = n + 1 := List.length_take_of_le inside
    have greatest := isGreatest_next (length_ring_after (c := start) rfl (sizes.take n)) size
    simp only [called, mem_held_after, number] at greatest
    exact greatest

/-- A size that is greater than all that share a window with it, its own place included. -/
structure Tall (sizes : List Nat) (k size : Nat) : Prop where
  inside : k < sizes.length
  many : 1 < size
  greater : ∀ i other, sizes[i]? = some other → i < k + 16 → k < i + 16 → other < size

/-- What is in the window of a call. -/
theorem mem_window {sizes : List Nat} {n size : Nat} (inside : n < sizes.length) :
    size ∈ (sizes.take (n + 1)).rtake 16 ↔ ∃ i, i ≤ n ∧ n < i + 16 ∧ sizes[i]? = some size := by
  have number : (sizes.take (n + 1)).length = n + 1 := List.length_take_of_le inside
  rw [List.rtake, number, List.mem_iff_getElem?]
  constructor
  · rintro ⟨j, here⟩
    rw [List.getElem?_drop, List.getElem?_take] at here
    split at here
    · next early => exact ⟨n + 1 - 16 + j, by omega, by omega, here⟩
    · cases here
  · rintro ⟨i, before, near, here⟩
    refine ⟨i - (n + 1 - 16), ?_⟩
    rw [List.getElem?_drop, Nat.add_sub_of_le (by omega), List.getElem?_take, if_pos (by omega), here]

namespace Slides

variable {sizes rooms raised : List Nat} {k size n : Nat}

/-- Each size has its room, which is for the greatest by the places of the sizes. -/
theorem exists_room (slides : Slides sizes rooms) (inside : n < sizes.length) :
    ∃ room, rooms[n]? = some room ∧ IsGreatest {size |
      (∃ i, i ≤ n ∧ n < i + 16 ∧ sizes[i]? = some size) ∨ n + 1 < 16 ∧ size = 1} room := by
  have given : n < rooms.length := slides.length ▸ inside
  refine ⟨rooms[n], List.getElem?_eq_getElem given, ?_⟩
  have greatest := slides.greatest n _ (List.getElem?_eq_getElem given)
  simp only [mem_window inside] at greatest
  exact greatest

/-- A tall size is what its room is for, and the fifteen that follow. -/
theorem raised_inside (slides : Slides (sizes.set k size) raised) (tall : Tall sizes k size)
    (inside : n < sizes.length) (after : k ≤ n) (before : n < k + 16) : raised[n]? = some size := by
  obtain ⟨room, given, greatest⟩ := slides.exists_room (by rwa [List.length_set])
  rw [given, greatest.unique ⟨.inl ⟨k, after, before, ?_⟩, ?_⟩]
  · exact List.getElem?_set_self tall.inside
  · rintro other (⟨i, early, near, here⟩ | ⟨_, rfl⟩)
    · rcases eq_or_ne i k with rfl | elsewhere
      · rw [List.getElem?_set_self tall.inside] at here
        exact Nat.le_of_eq (Option.some.inj here).symm
      · rw [List.getElem?_set_ne elsewhere.symm] at here
        exact Nat.le_of_lt (tall.greater i other here (by omega) (by omega))
    · exact Nat.le_of_lt tall.many

/-- Before a tall size takes the place of another, none of these rooms is for as much. -/
theorem lower_inside (slides : Slides sizes rooms) (tall : Tall sizes k size)
    (inside : n < sizes.length) (after : k ≤ n) (before : n < k + 16) : rooms[n]? ≠ some size := by
  obtain ⟨room, given, ⟨member, _⟩⟩ := slides.exists_room inside
  rw [given]
  rintro ⟨rfl⟩
  rcases member with ⟨i, early, near, here⟩ | ⟨_, rfl⟩
  · exact Nat.lt_irrefl _ (tall.greater i _ here (by omega) (by omega))
  · exact Nat.lt_irrefl _ tall.many

/-- A size has no part in any other room. -/
theorem same_outside (slides : Slides sizes rooms) (others : Slides (sizes.set k size) raised)
    (inside : n < sizes.length) (outside : ¬ (k ≤ n ∧ n < k + 16)) : raised[n]? = rooms[n]? := by
  obtain ⟨room, given, greatest⟩ := slides.exists_room inside
  obtain ⟨other, found, greater⟩ := others.exists_room (by rwa [List.length_set])
  have same : ∀ x, (∃ i, i ≤ n ∧ n < i + 16 ∧ (sizes.set k size)[i]? = some x) ↔
      ∃ i, i ≤ n ∧ n < i + 16 ∧ sizes[i]? = some x := by
    intro x
    refine exists_congr fun i => and_congr_right fun early => and_congr_right fun near => ?_
    rw [List.getElem?_set_ne (by omega)]
  simp only [same] at greater
  rw [given, found, greater.unique greatest]

end Slides

namespace Event

variable [Buffer β ι]

/-- The size of the batch that a look takes. -/
def sizeTaken (e : Event β ι ω) : List Nat :=
  match e.label, e.after.receiver.phase with
  | .look _ _, .calling batch _ => [Buffer.size batch]
  | _, _ => []

/-- The room that it sets aside with it. -/
def roomSet (e : Event β ι ω) : List Nat := if e.takes then [e.after.receiver.room] else []

end Event

variable [Buffer β ι]
variable {first y z : System β ω} {events : List (Event β ι ω)} {label : Label β ι ω}
  {effects : List (Effect β ω)}

/-- A step that takes a batch asks for a room, and no other one does. -/
theorem room_step (step : System.Step y label z effects) :
    let e : Event β ι ω := ⟨y, label, effects, z⟩
    e.roomSet = y.receiver.capacity.rooms e.sizeTaken ∧
      z.receiver.capacity = y.receiver.capacity.after e.sizeTaken ∧
      z.receiver.room = e.roomSet.getLastD y.receiver.room := by
  cases step with
  | enter now r phase entered =>
    obtain ⟨tick, rfl, _⟩ := Receiver.eq_of_enter entered
    exact ⟨rfl, rfl, rfl⟩
  | _ => exact ⟨rfl, rfl, rfl⟩

theorem rooms_run (run : Run first events y) :
    events.flatMap Event.roomSet = first.receiver.capacity.rooms (events.flatMap Event.sizeTaken) ∧
      y.receiver.capacity = first.receiver.capacity.after (events.flatMap Event.sizeTaken) ∧
      y.receiver.room = (events.flatMap Event.roomSet).getLastD first.receiver.room := by
  induction run with
  | nil => exact ⟨rfl, rfl, rfl⟩
  | snoc _ stepped ih =>
    obtain ⟨rooms, capacity, room⟩ := ih
    obtain ⟨set, next, kept⟩ := room_step (System.step_sound stepped)
    simp only [List.flatMap_append, List.flatMap_singleton]
    refine ⟨?_, ?_, ?_⟩
    · rw [Capacity.rooms_append, ← capacity, ← set, rooms]
    · rw [Capacity.after_append, ← capacity, next]
    · rw [kept, room]
      simp only [List.getLastD_eq_getLast?, List.getLast?_append, Option.getD_or]

/-- However often it is asked, a capacity gives room for the greatest of the last sixteen sizes, and
for one entry at least as long as there are fewer. A tall size changes its own room and the fifteen
that follow, and no other. In every run of a channel the receiver asks once for each batch that it
takes, and sets aside what it is given. -/
theorem rooms_slide :
    (∀ sizes : List Nat, Slides sizes (Capacity.start.rooms sizes)) ∧
    (∀ (sizes : List Nat) (k size : Nat), Tall sizes k size → ∀ n < sizes.length,
      let rooms := Capacity.start.rooms sizes
      let raised := Capacity.start.rooms (sizes.set k size)
      (raised[n]? ≠ rooms[n]? ↔ k ≤ n ∧ n < k + 16) ∧
      (k ≤ n ∧ n < k + 16 → raised[n]? = some size)) ∧
    ∀ {capacity : Nat} {interval : Option Duration} {threshold : Option Nat} {maxRetries : Nat}
      {events : List (Event β ι ω)} {y : System β ω},
      Run (.start capacity (.create interval threshold maxRetries)) events y →
      events.flatMap Event.roomSet = Capacity.start.rooms (events.flatMap Event.sizeTaken) ∧
        y.receiver.room = (events.flatMap Event.roomSet).getLastD 0 := by
  refine ⟨Capacity.slides, ?_, ?_⟩
  · intro sizes k size tall n inside rooms raised
    have slides : Slides sizes rooms := Capacity.slides sizes
    have others : Slides (sizes.set k size) raised := Capacity.slides (sizes.set k size)
    have given : k ≤ n ∧ n < k + 16 → raised[n]? = some size := by
      rintro ⟨after, before⟩
      exact others.raised_inside tall inside after before
    refine ⟨⟨?_, ?_⟩, given⟩
    · intro changed
      by_contra outside
      exact changed (slides.same_outside others inside outside)
    · rintro ⟨after, before⟩
      rw [given ⟨after, before⟩]
      exact (slides.lower_inside tall inside after before).symm
  · intro capacity interval threshold maxRetries events y run
    obtain ⟨rooms, _, room⟩ := rooms_run run
    exact ⟨rooms, room⟩

/-- A batch of three, and one of a single item. -/
def shrinking : List (Label (List Nat) Nat Nat) :=
  [.enter ⟨0⟩, .send 1, .send 2, .send 3, .look ⟨0⟩ ⟨0⟩, .invoke, .send 4, .settle .processed,
    .look ⟨0⟩ ⟨0⟩]

/-- A tall size shortly before the number of calls wraps. -/
theorem rooms_slide_wrapped :
    let sizes := List.replicate (2 ^ 64 + 16) 5
    let raised := Capacity.start.rooms (sizes.set (2 ^ 64 - 4) 9)
    let events := follow System.step (.start 3 (.create none none 10)) shrinking
    Tall sizes (2 ^ 64 - 4) 9 ∧ raised[2 ^ 64 + 11]? = some 9 ∧
    raised[2 ^ 64 + 12]? = (Capacity.start.rooms sizes)[2 ^ 64 + 12]? ∧
    events.flatMap Event.sizeTaken = [3, 1] ∧
    events.flatMap Event.roomSet = Capacity.start.rooms [3, 1] ∧
    Capacity.start.rooms [3, 1] = [3, 3] := by
  intro sizes raised events
  have number : sizes.length = 2 ^ 64 + 16 := List.length_replicate
  have tall : Tall sizes (2 ^ 64 - 4) 9 := by
    refine ⟨by omega, by decide, fun i other here _ _ => ?_⟩
    rw [List.eq_of_mem_replicate (List.mem_of_getElem? here)]
    decide
  have inside := (rooms_slide (β := List Nat) (ω := Nat)).2.1 sizes _ 9 tall
  have taken : events.flatMap Event.sizeTaken = [3, 1] := by decide
  have run := run_follow System.step (.start 3 (.create none none 10)) shrinking
  refine ⟨tall, (inside (2 ^ 64 + 11) (by omega)).2 (by omega), ?_, taken, ?_, by decide⟩
  · by_contra changed
    have within := (inside (2 ^ 64 + 12) (by omega)).1.mp changed
    omega
  · exact taken ▸ (rooms_slide.2.2 run).1

end Telemetry.Channel
