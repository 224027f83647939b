/-! Runs of a step function whose steps carry a label and have effects. A run keeps the
states on both sides of each of its steps, so that what happened can be read off it. -/
namespace Telemetry

/-- One step of a run. -/
structure Event (σ κ ε : Type) where
  before : σ
  label : κ
  effects : List ε
  after : σ

/-- A run from `first`: its events in order, and the state they lead to. -/
inductive Run {σ κ ε : Type} (step : σ → κ → Option (σ × List ε)) (first : σ) :
    List (Event σ κ ε) → σ → Prop where
  | nil : Run step first [] first
  | snoc {events y z label effects} : Run step first events y →
      step y label = some (z, effects) →
      Run step first (events ++ [⟨y, label, effects, z⟩]) z

/-- The events of a list of labels, up to the first one that is not possible. -/
def follow {σ κ ε : Type} (step : σ → κ → Option (σ × List ε)) (y : σ) :
    List κ → List (Event σ κ ε)
  | [] => []
  | label :: rest =>
    match step y label with
    | none => []
    | some (z, effects) => ⟨y, label, effects, z⟩ :: follow step z rest

namespace Run

variable {σ κ ε : Type} {step : σ → κ → Option (σ × List ε)} {first y z : σ}
  {events more : List (Event σ κ ε)}

theorem trans (left : Run step first events y) (right : Run step y more z) :
    Run step first (events ++ more) z := by
  induction right with
  | nil => simpa using left
  | snoc _ stepped ih =>
    rw [← List.append_assoc]
    exact .snoc ih stepped

theorem one {label : κ} {effects : List ε} (stepped : step y label = some (z, effects)) :
    Run step y [⟨y, label, effects, z⟩] z := .snoc .nil stepped

theorem cons {label : κ} {effects : List ε} {w : σ} (stepped : step y label = some (z, effects))
    (rest : Run step z more w) : Run step y (⟨y, label, effects, z⟩ :: more) w :=
  (one stepped).trans rest

/-- The events before, at and after one event of a run. -/
theorem split {e : Event σ κ ε} (run : Run step first (events ++ e :: more) y) :
    Run step first events e.before ∧ step e.before e.label = some (e.after, e.effects) ∧
      Run step e.after more y := by
  generalize whole : events ++ e :: more = all at run
  induction run generalizing more with
  | nil => simp at whole
  | @snoc earlier y z label effects run stepped ih =>
    rcases List.eq_nil_or_concat more with rfl | ⟨rest, last, rfl⟩
    · obtain ⟨rfl, same⟩ := List.append_inj' whole rfl
      obtain rfl : e = ⟨y, label, effects, z⟩ := by simpa using same
      exact ⟨run, stepped, .nil⟩
    · have parts : (events ++ e :: rest) ++ [last] = earlier ++ [⟨y, label, effects, z⟩] := by
        simpa using whole
      obtain ⟨same, lastEq⟩ := List.append_inj' parts rfl
      obtain rfl : last = ⟨y, label, effects, z⟩ := by simpa using lastEq
      obtain ⟨left, here, right⟩ := ih same
      rw [List.concat_eq_append]
      exact ⟨left, here, .snoc right stepped⟩

/-- A run in two parts. -/
theorem parts (run : Run step first (events ++ more) y) :
    ∃ z, Run step first events z ∧ Run step z more y := by
  cases more with
  | nil => exact ⟨y, by simpa using run, .nil⟩
  | cons e rest =>
    obtain ⟨left, here, right⟩ := run.split
    exact ⟨e.before, left, right.cons here⟩

/-- Each event of a run is a step. -/
theorem step_of_mem {e : Event σ κ ε} (run : Run step first events y) (member : e ∈ events) :
    step e.before e.label = some (e.after, e.effects) := by
  obtain ⟨left, right, rfl⟩ := List.append_of_mem member
  exact run.split.2.1

/-- What every step keeps holds before each event of a run, and at its end. -/
theorem keeps (holds : σ → Prop) (run : Run step first events y) (start : holds first)
    (kept : ∀ {y label z effects}, step y label = some (z, effects) → holds y → holds z) :
    (∀ e ∈ events, holds e.before) ∧ holds y := by
  induction run with
  | nil => exact ⟨fun _ member => absurd member List.not_mem_nil, start⟩
  | snoc _ stepped ih =>
    refine ⟨fun e member => ?_, kept stepped ih.2⟩
    rcases List.mem_append.mp member with before | here
    · exact ih.1 e before
    · exact List.mem_singleton.mp here ▸ ih.2

/-- A flag that certain steps raise, and none lowers, is up where it was at the start or one of
these steps was taken. -/
theorem flag_iff (flag : σ → Bool) (raises : κ → Prop) (run : Run step first events y)
    (changes : ∀ {y label z effects}, step y label = some (z, effects) →
      (flag z = true ↔ flag y = true ∨ raises label)) :
    flag y = true ↔ flag first = true ∨ ∃ e ∈ events, raises e.label := by
  induction run with
  | nil => simp
  | snoc _ stepped ih =>
    rw [changes stepped, ih, or_assoc]
    simp [or_and_right, exists_or]

/-- Where no step raises a budget, and the steps that count lower it, a run has no more of these
than it spends. -/
theorem countP_add_le (counts : Event σ κ ε → Bool) (budget : σ → Nat)
    (run : Run step first events y)
    (spends : ∀ e ∈ events, budget e.after + (if counts e then 1 else 0) ≤ budget e.before) :
    events.countP counts + budget y ≤ budget first := by
  induction run with
  | nil => simp
  | @snoc events y z label effects _ stepped ih =>
    have before := ih fun e member => spends e (by simp [member])
    have here : budget z + (if counts ⟨y, label, effects, z⟩ then 1 else 0) ≤ budget y :=
      spends ⟨y, label, effects, z⟩ (by simp)
    rw [List.countP_append, List.countP_singleton]
    omega

end Run

theorem label_mem_of_mem_follow {σ κ ε : Type} {step : σ → κ → Option (σ × List ε)} {y : σ}
    {labels : List κ} {e : Event σ κ ε} (member : e ∈ follow step y labels) : e.label ∈ labels := by
  induction labels generalizing y with
  | nil => cases member
  | cons label rest ih =>
    unfold follow at member
    split at member
    · cases member
    · rcases List.mem_cons.mp member with rfl | later
      · exact List.mem_cons_self
      · exact List.mem_cons_of_mem label (ih later)

/-- Where a run along the given events ends. -/
def endOf {σ κ ε : Type} (first : σ) : List (Event σ κ ε) → σ
  | [] => first
  | e :: rest => endOf e.after rest

theorem run_follow {σ κ ε : Type} (step : σ → κ → Option (σ × List ε)) (y : σ) (labels : List κ) :
    Run step y (follow step y labels) (endOf y (follow step y labels)) := by
  induction labels generalizing y with
  | nil => exact .nil
  | cons label rest ih =>
    unfold follow
    cases stepped : step y label with
    | none => exact .nil
    | some next => exact (ih next.1).cons stepped

end Telemetry
