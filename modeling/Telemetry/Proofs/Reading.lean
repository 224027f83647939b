import Mathlib.Data.List.Forall2

/-! Readers that refuse with a fault: what a success of several readings in a row, or of reading
every item of a list, says of each of them. -/
namespace Telemetry.Reading

variable {ε ε' : Type} {α β : Type}

theorem bind_eq_ok_iff {x : Except ε α} {f : α → Except ε β} {b : β} :
    (x >>= f) = .ok b ↔ ∃ a, x = .ok a ∧ f a = .ok b := by
  cases x <;> simp [bind, Except.bind]

theorem mapError_eq_ok_iff {x : Except ε α} {f : ε → ε'} {a : α} :
    x.mapError f = .ok a ↔ x = .ok a := by
  cases x <;> simp [Except.mapError]

theorem map_eq_ok_iff {x : Except ε α} {f : α → β} {b : β} :
    x.map f = .ok b ↔ ∃ a, x = .ok a ∧ f a = b := by
  cases x <;> simp [Except.map]

/-- All items of a list are read where each one is. -/
theorem mapM_eq_ok_iff {read : α → Except ε β} {items : List α} {results : List β} :
    items.mapM read = .ok results ↔ List.Forall₂ (fun x y => read x = .ok y) items results := by
  induction items generalizing results with
  | nil =>
    rw [List.mapM_nil, List.forall₂_nil_left_iff]
    exact ⟨fun done => (Except.ok.inj done).symm, fun none => none ▸ rfl⟩
  | cons x rest ih =>
    simp only [List.mapM_cons, bind_eq_ok_iff, ih]
    constructor
    · rintro ⟨y, first, ys, later, same⟩
      cases same
      exact .cons first later
    · intro all
      cases all with
      | cons first later => exact ⟨_, first, _, later, rfl⟩

theorem exists_mapM_eq_ok_iff {read : α → Except ε β} {items : List α} :
    (∃ results, items.mapM read = .ok results) ↔ ∀ x ∈ items, ∃ y, read x = .ok y := by
  simp only [mapM_eq_ok_iff]
  induction items with
  | nil => simp
  | cons x rest ih =>
    rw [List.forall_mem_cons, ← ih]
    constructor
    · rintro ⟨_, all⟩
      cases all with
      | cons first later => exact ⟨⟨_, first⟩, _, later⟩
    · rintro ⟨⟨y, first⟩, ys, later⟩
      exact ⟨y :: ys, .cons first later⟩

theorem exists_mem_of_mapM_eq_error {read : α → Except ε β} {items : List α} {fault : ε}
    (refused : items.mapM read = .error fault) : ∃ x ∈ items, read x = .error fault := by
  induction items with
  | nil => cases refused
  | cons x rest ih =>
    rw [List.mapM_cons] at refused
    cases first : read x with
    | error other =>
      rw [first] at refused
      cases refused
      exact ⟨x, List.mem_cons_self, first⟩
    | ok y =>
      rw [first] at refused
      cases later : rest.mapM read with
      | error other =>
        simp only [bind, Except.bind, later] at refused
        cases refused
        obtain ⟨z, there, failed⟩ := ih later
        exact ⟨z, List.mem_cons_of_mem x there, failed⟩
      | ok results => simp [bind, Except.bind, later, pure, Except.pure] at refused

theorem forall_mem_right {R : α → β → Prop} {P : β → Prop} {l : List α} {m : List β}
    (related : List.Forall₂ R l m) (holds : ∀ a b, R a b → P b) : ∀ b ∈ m, P b := by
  induction related with
  | nil => exact fun b none => absurd none List.not_mem_nil
  | cons first _ ih => exact List.forall_mem_cons.mpr ⟨holds _ _ first, ih⟩

end Telemetry.Reading
