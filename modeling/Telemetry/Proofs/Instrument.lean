import Mathlib.Data.List.Forall2
import Telemetry.Meter
import Telemetry.Proofs.Aggregation.Buckets

/-! The rules that an instrument has to meet, on the characters of its name and on its bounds as
numbers, and which two names are one. Main results: `Instrument.isValidName_iff`,
`Instrument.boundaryFault_eq_none_iff` and `Meter.nameKey_eq_iff`. -/
namespace Telemetry

section Names

def IsLetter (c : Char) : Prop := 'A' ≤ c ∧ c ≤ 'Z' ∨ 'a' ≤ c ∧ c ≤ 'z'

def IsDigit (c : Char) : Prop := '0' ≤ c ∧ c ≤ '9'

theorem isAlpha_iff (c : Char) : c.isAlpha = true ↔ IsLetter c := by
  unfold Char.isAlpha Char.isUpper Char.isLower IsLetter
  simp only [Bool.or_eq_true, Bool.and_eq_true, decide_eq_true_eq, Char.le_def, ge_iff_le]

theorem isDigit_iff (c : Char) : c.isDigit = true ↔ IsDigit c := by
  unfold Char.isDigit IsDigit
  simp only [Bool.and_eq_true, decide_eq_true_eq, Char.le_def, ge_iff_le]

/-- Equal, or an ASCII capital letter and its small one. -/
def SameLetter (c d : Char) : Prop :=
  c = d ∨ ('A' ≤ c ∧ c ≤ 'Z' ∧ d.toNat = c.toNat + 32) ∨
    ('A' ≤ d ∧ d ≤ 'Z' ∧ c.toNat = d.toNat + 32)

/-- Equal up to the case of ASCII letters. -/
def SameName (s t : String) : Prop := List.Forall₂ SameLetter s.toList t.toList

theorem toNat_toLower (c : Char) :
    c.toLower.toNat = if 'A' ≤ c ∧ c ≤ 'Z' then c.toNat + 32 else c.toNat := by
  unfold Char.toLower
  split
  next capital =>
    have limit : c.toNat ≤ 90 := capital.2
    rw [if_pos ⟨capital.1, capital.2⟩]
    change (c.val + 32).toNat = c.toNat + 32
    rw [UInt32.toNat_add]
    change (c.toNat + 32) % 2 ^ 32 = c.toNat + 32
    omega
  next other => rw [if_neg fun capital => other ⟨capital.1, capital.2⟩]

theorem toLower_eq_iff (c d : Char) : c.toLower = d.toLower ↔ SameLetter c d := by
  have order (a b : Char) : a ≤ b ↔ a.toNat ≤ b.toNat := Iff.rfl
  have first : 'A'.toNat = 65 := rfl
  have last : 'Z'.toNat = 90 := rfl
  unfold SameLetter
  rw [← Char.toNat_inj, ← Char.toNat_inj, toNat_toLower, toNat_toLower]
  simp only [order, first, last]
  split_ifs <;> omega

/-- Names are taken up to the case of their letters. -/
theorem Meter.nameKey_eq_iff (s t : String) : nameKey s = nameKey t ↔ SameName s t := by
  unfold nameKey SameName
  rw [String.ofList_inj, ← List.forall₂_eq_eq_eq, List.forall₂_map_left_iff,
    List.forall₂_map_right_iff]
  simp only [toLower_eq_iff]

end Names

section Bounds

theorem Binary64.lt_trans {x y z : Binary64} (first : x.lt y = true) (second : y.lt z = true) :
    x.lt z = true := by
  unfold lt at first second ⊢
  simp only [Bool.and_eq_true, Bool.not_eq_true', decide_eq_true_eq] at first second ⊢
  exact ⟨⟨first.1.1, second.1.2⟩, Int.lt_trans first.2 second.2⟩

instance : Trans (fun x y : Binary64 => x.lt y = true) (fun x y => x.lt y = true)
    (fun x y => x.lt y = true) := ⟨Binary64.lt_trans⟩

end Bounds

namespace Instrument

/-- A name that an instrument can have. -/
structure ProperName (name : String) : Prop where
  short : name.utf8ByteSize ≤ 255
  starts : ∃ c ∈ name.toList.head?, IsLetter c
  continues : ∀ c ∈ name.toList.tail, IsLetter c ∨ IsDigit c ∨ c ∈ ['_', '.', '-', '/']

theorem isNameChar_iff (c : Char) :
    isNameChar c = true ↔ IsLetter c ∨ IsDigit c ∨ c ∈ ['_', '.', '-', '/'] := by
  unfold isNameChar Char.isAlphanum
  simp only [Bool.or_eq_true, decide_eq_true_eq, isAlpha_iff, isDigit_iff, List.mem_cons,
    List.not_mem_nil, or_false, or_assoc]

theorem isValidName_iff (name : String) : isValidName name = true ↔ ProperName name := by
  unfold isValidName maxNameLength
  rw [Bool.and_eq_true, decide_eq_true_eq]
  cases characters : name.toList with
  | nil =>
    refine iff_of_false (fun valid => Bool.false_ne_true valid.2) fun proper => ?_
    obtain ⟨c, first, _⟩ := proper.starts
    rw [characters] at first
    cases first
  | cons c rest =>
    rw [Bool.and_eq_true, List.all_eq_true, isAlpha_iff]
    simp only [isNameChar_iff]
    constructor
    · rintro ⟨short, letter, others⟩
      exact ⟨short, ⟨c, by rw [characters]; rfl, letter⟩, by rwa [characters]⟩
    · rintro ⟨short, ⟨d, first, letter⟩, others⟩
      rw [characters] at first others
      cases first
      exact ⟨short, letter, others⟩

/-- A number is below its neighbour exactly where neither test of the two finds a fault. -/
theorem lt_iff_faultless {a b : Binary64} (left : a.isNaN = false) (right : b.isNaN = false) :
    a.lt b = true ↔ ¬(a.le b && b.le a) = true ∧ ¬b.lt a = true := by
  rw [Bool.and_eq_true, Binary64.lt_iff left right, Binary64.le_iff left right,
    Binary64.le_iff right left, Binary64.lt_iff right left]
  omega

theorem neighbourFault_eq_none_iff {edges : List Binary64}
    (numbers : ∀ b ∈ edges, b.isNaN = false) :
    neighbourFault edges = none ↔ edges.IsChain fun a b => a.lt b = true := by
  fun_induction neighbourFault edges with
  | case1 a b rest equal =>
    have pair := lt_iff_faultless (numbers a (by simp)) (numbers b (by simp))
    exact iff_of_false nofun fun chain => (pair.mp (List.isChain_cons_cons.mp chain).1).1 equal
  | case2 a b rest distinct falls =>
    have pair := lt_iff_faultless (numbers a (by simp)) (numbers b (by simp))
    exact iff_of_false nofun fun chain => (pair.mp (List.isChain_cons_cons.mp chain).1).2 falls
  | case3 a b rest distinct level ih =>
    have pair := lt_iff_faultless (numbers a (by simp)) (numbers b (by simp))
    rw [List.isChain_cons_cons, ih fun c member => numbers c (List.mem_cons_of_mem a member)]
    exact (and_iff_right (pair.mpr ⟨distinct, level⟩)).symm
  | case4 edges short =>
    refine iff_of_true rfl ?_
    match edges with
    | [] => exact .nil
    | [b] => exact .singleton b
    | a :: b :: rest => exact (short a b rest rfl).elim

/-- Comparing neighbours is enough: the bounds that pass increase throughout. -/
theorem boundaryFault_eq_none_iff (edges : List Binary64) :
    boundaryFault edges = none ↔ Increasing edges := by
  unfold boundaryFault
  split
  next finite =>
    rw [List.all_eq_true] at finite
    have numbers := fun b member => Binary64.isNaN_of_isFinite (finite b member)
    rw [neighbourFault_eq_none_iff numbers, List.isChain_iff_pairwise]
    exact ⟨fun ordered => ⟨finite, ordered⟩, Increasing.ordered⟩
  next unbounded =>
    rw [List.all_eq_true] at unbounded
    exact iff_of_false nofun fun increasing => unbounded increasing.finite

/-- The usual bounds of a histogram pass their own check. -/
theorem increasing_defaultBoundaries : Increasing defaultBoundaries :=
  (boundaryFault_eq_none_iff _).mp (by decide)

end Instrument

namespace InstrumentRequest

/-- The bounds that are asked for: a histogram's own or the usual ones, and none for a counter. -/
def bounds? (r : InstrumentRequest) : Option (List Binary64) :=
  match r.kind with
  | .counter => none
  | .histogram => some (r.boundaries.getD Instrument.defaultBoundaries)

/-- A request that can be met where its name is not taken. -/
structure Sound (r : InstrumentRequest) : Prop where
  name : Instrument.ProperName r.name
  bounds : ∀ edges ∈ r.bounds?, Increasing edges

end InstrumentRequest

theorem Meter.boundariesOf_eq_ok_iff (r : InstrumentRequest) (bounds : Option (List Binary64)) :
    boundariesOf r = .ok bounds ↔ bounds = r.bounds? ∧ ∀ edges ∈ r.bounds?, Increasing edges := by
  unfold boundariesOf InstrumentRequest.bounds?
  cases r.kind with
  | counter =>
    constructor
    · rintro ⟨⟩
      exact ⟨rfl, nofun⟩
    · rintro ⟨rfl, _⟩
      rfl
  | histogram =>
    simp only [Option.mem_some_iff, forall_eq']
    rw [← Instrument.boundaryFault_eq_none_iff]
    cases fault : Instrument.boundaryFault (r.boundaries.getD Instrument.defaultBoundaries) with
    | none =>
      simp only [and_true, Except.ok.injEq]
      exact eq_comm
    | some reason => exact iff_of_false nofun fun refused => nomatch refused.2

end Telemetry
