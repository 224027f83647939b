import Telemetry.Json.Value
import Telemetry.Proofs.Decimal.Numeral
import Telemetry.Proofs.Decimal.Shortest

/-! The numbers of JSON: their grammar, how they are read from the left, and that all numerals of
integers and floats are among them. Main results: `IsNumber.read` and `isNumber_finiteText`. -/
namespace Telemetry.Json

open Decimal

def IsDigits (l : List Char) : Prop := l ≠ [] ∧ ∀ c ∈ l, isDigit c = true

/-- What stands before the point has no zero in front of other digits. -/
inductive IsWhole : List Char → Prop where
  | zero : IsWhole ['0']
  | digits {c : Char} {cs : List Char} (nonzero : c ≠ '0') (all : ∀ d ∈ c :: cs, isDigit d = true) :
    IsWhole (c :: cs)

inductive IsFraction : List Char → Prop where
  | absent : IsFraction []
  | digits {l : List Char} (digits : IsDigits l) : IsFraction ('.' :: l)

inductive IsExponent : List Char → Prop where
  | absent : IsExponent []
  | digits {mark : Char} {sign l : List Char} (marked : mark = 'e' ∨ mark = 'E')
    (signed : sign = [] ∨ sign = ['+'] ∨ sign = ['-']) (digits : IsDigits l) :
    IsExponent (mark :: (sign ++ l))

inductive IsNumber : List Char → Prop where
  | parts {sign whole fraction exponent : List Char} (signed : sign = [] ∨ sign = ['-'])
    (isWhole : IsWhole whole) (isFraction : IsFraction fraction)
    (isExponent : IsExponent exponent) : IsNumber (sign ++ (whole ++ (fraction ++ exponent)))

/-! Each reader takes one part off the front, as much of it as there is. -/

def afterDigits : List Char → Option (List Char)
  | [] => none
  | c :: rest => if isDigit c then some (rest.dropWhile isDigit) else none

def afterMinus : List Char → List Char
  | [] => []
  | c :: rest => if c = '-' then rest else c :: rest

def afterWhole : List Char → Option (List Char)
  | [] => none
  | c :: rest => if c = '0' then some rest else afterDigits (c :: rest)

def afterFraction : List Char → Option (List Char)
  | [] => some []
  | c :: rest => if c = '.' then afterDigits rest else some (c :: rest)

def afterSign : List Char → List Char
  | [] => []
  | c :: rest => if c = '+' || c = '-' then rest else c :: rest

def afterExponent : List Char → Option (List Char)
  | [] => some []
  | c :: rest => if c = 'e' || c = 'E' then afterDigits (afterSign rest) else some (c :: rest)

def afterNumber (l : List Char) : Option (List Char) := do
  let rest ← afterWhole (afterMinus l)
  let rest ← afterFraction rest
  afterExponent rest

/-- The rest does not go on with the number before it. -/
def Stops (rest : List Char) : Prop :=
  ∀ c ∈ rest.head?, isDigit c = false ∧ c ≠ '.' ∧ c ≠ 'e' ∧ c ≠ 'E'

theorem dropWhile_isDigit {l rest : List Char} (digits : ∀ c ∈ l, isDigit c = true)
    (stop : ∀ c ∈ rest.head?, isDigit c = false) : (l ++ rest).dropWhile isDigit = rest := by
  rw [List.dropWhile_append_of_pos digits]
  cases rest with
  | nil => rfl
  | cons c rest => exact List.dropWhile_cons_of_neg (by simp [stop c rfl])

theorem IsDigits.read {l rest : List Char} (digits : IsDigits l)
    (stop : ∀ c ∈ rest.head?, isDigit c = false) : afterDigits (l ++ rest) = some rest := by
  obtain ⟨filled, all⟩ := digits
  obtain ⟨c, cs, rfl⟩ := List.exists_cons_of_ne_nil filled
  have later := dropWhile_isDigit (fun d hd => all d (List.mem_cons_of_mem _ hd)) stop
  rw [List.cons_append, afterDigits, if_pos (all c List.mem_cons_self), later]

theorem IsWhole.read {l rest : List Char} (whole : IsWhole l)
    (stop : ∀ c ∈ rest.head?, isDigit c = false) : afterWhole (l ++ rest) = some rest := by
  cases whole with
  | zero => rfl
  | @digits c cs nonzero all =>
    have digits : IsDigits (c :: cs) := ⟨List.cons_ne_nil _ _, all⟩
    rw [List.cons_append, afterWhole, if_neg nonzero]
    exact digits.read stop

theorem IsFraction.read {l rest : List Char} (fraction : IsFraction l)
    (stop : ∀ c ∈ rest.head?, isDigit c = false ∧ c ≠ '.') :
    afterFraction (l ++ rest) = some rest := by
  cases fraction with
  | absent =>
    cases rest with
    | nil => rfl
    | cons c rest => exact if_neg (stop c rfl).2
  | digits digits =>
    rw [List.cons_append, afterFraction, if_pos rfl]
    exact digits.read fun c hc => (stop c hc).1

theorem IsExponent.read {l rest : List Char} (exponent : IsExponent l) (stop : Stops rest) :
    afterExponent (l ++ rest) = some rest := by
  cases exponent with
  | absent =>
    cases rest with
    | nil => rfl
    | cons c rest =>
      have other := stop c rfl
      simp [afterExponent, other]
  | @digits mark sign l marked signed digits =>
    have unsigned : afterSign (sign ++ (l ++ rest)) = l ++ rest := by
      rcases signed with rfl | rfl | rfl
      · obtain ⟨c, cs, rfl⟩ := List.exists_cons_of_ne_nil digits.1
        have digit := digits.2 c List.mem_cons_self
        have neither : (c = '+' || c = '-') = false := by
          rw [Bool.eq_false_iff]
          intro sign
          rw [Bool.or_eq_true, decide_eq_true_eq, decide_eq_true_eq] at sign
          rcases sign with rfl | rfl <;> cases digit
        simp [afterSign, neither]
      · rfl
      · rfl
    have marks : (mark = 'e' || mark = 'E') = true := by simpa using marked
    rw [List.cons_append, List.append_assoc, afterExponent, if_pos marks, unsigned]
    exact digits.read fun c hc => (stop c hc).1

theorem head_exponent {l rest : List Char} (exponent : IsExponent l) (stop : Stops rest) :
    ∀ c ∈ (l ++ rest).head?, isDigit c = false ∧ c ≠ '.' := by
  intro c hc
  cases exponent with
  | absent => exact ⟨(stop c hc).1, (stop c hc).2.1⟩
  | digits marked signed digits =>
    obtain rfl := Option.some.inj hc
    rcases marked with rfl | rfl <;> decide

theorem head_fraction {l rest : List Char} (fraction : IsFraction l)
    (stop : ∀ c ∈ rest.head?, isDigit c = false) : ∀ c ∈ (l ++ rest).head?, isDigit c = false := by
  intro c hc
  cases fraction with
  | absent => exact stop c hc
  | digits digits =>
    obtain rfl := Option.some.inj hc
    decide

theorem IsWhole.afterMinus {l : List Char} (whole : IsWhole l) (rest : List Char) :
    afterMinus (l ++ rest) = l ++ rest := by
  cases whole with
  | zero => rfl
  | @digits c cs nonzero all =>
    have digit := all c List.mem_cons_self
    have unsigned : c ≠ '-' := by
      rintro rfl
      cases digit
    exact if_neg unsigned

/-- A number is read to its end. -/
theorem IsNumber.read {l rest : List Char} (number : IsNumber l) (stop : Stops rest) :
    afterNumber (l ++ rest) = some rest := by
  obtain @⟨sign, whole, fraction, exponent, signed, isWhole, isFraction, isExponent⟩ := number
  have behindFraction := head_exponent isExponent stop
  have behindWhole := head_fraction isFraction fun c hc => (behindFraction c hc).1
  have unsigned : afterMinus (sign ++ (whole ++ (fraction ++ (exponent ++ rest)))) =
      whole ++ (fraction ++ (exponent ++ rest)) := by
    rcases signed with rfl | rfl
    · exact isWhole.afterMinus _
    · rfl
  simp only [List.append_assoc, afterNumber, bind, unsigned, isWhole.read behindWhole,
    Option.bind_some, isFraction.read behindFraction, isExponent.read stop]

theorem IsNumber.head {l : List Char} (number : IsNumber l) :
    ∃ c cs, l = c :: cs ∧ (isDigit c = true ∨ c = '-') := by
  obtain @⟨sign, whole, fraction, exponent, signed, isWhole, _, _⟩ := number
  rcases signed with rfl | rfl
  · cases isWhole with
    | zero => exact ⟨'0', _, rfl, .inl rfl⟩
    | @digits c cs _ all => exact ⟨c, _, rfl, .inl (all c List.mem_cons_self)⟩
  · exact ⟨'-', _, rfl, .inr rfl⟩

theorem isDigits_numeral (n : Nat) : IsDigits (numeral n) :=
  ⟨numeral_ne_nil n, fun _ hc => isDigit_of_mem_numeral hc⟩

theorem isWhole_numeral (n : Nat) : IsWhole (numeral n) := by
  rcases Nat.eq_zero_or_pos n with rfl | pos
  · rw [numeral_zero]
    exact .zero
  · obtain ⟨c, cs, lead, nonzero⟩ := numeral_of_pos pos
    have digits := (isDigits_numeral n).2
    rw [lead] at digits ⊢
    exact .digits nonzero digits

theorem isNumber_numeral (n : Nat) : IsNumber (numeral n) := by
  have number := IsNumber.parts (.inl rfl) (isWhole_numeral n) .absent .absent
  simpa using number

theorem isNumber_intNumeral (i : Int) : IsNumber (intNumeral i) := by
  unfold intNumeral
  split
  · have number := IsNumber.parts (.inr rfl) (isWhole_numeral i.natAbs) .absent .absent
    simpa using number
  · exact isNumber_numeral i.natAbs

theorem isDigits_replicate_append (count : Nat) {l : List Char} (digits : IsDigits l) :
    IsDigits (List.replicate count '0' ++ l) := by
  refine ⟨List.append_ne_nil_of_right_ne_nil _ digits.1, fun c hc => ?_⟩
  rcases List.mem_append.mp hc with hc | hc
  · rw [List.eq_of_mem_replicate hc]
    rfl
  · exact digits.2 c hc

/-- A number without a sign. -/
def IsUnsigned (l : List Char) : Prop :=
  ∃ whole fraction exponent, l = whole ++ (fraction ++ exponent) ∧
    IsWhole whole ∧ IsFraction fraction ∧ IsExponent exponent

theorem isWhole_shifted {n : Nat} {count : Nat} (bare : n = 0 → count = 0) :
    IsWhole (numeral n ++ List.replicate count '0') := by
  rcases Nat.eq_zero_or_pos n with zero | pos
  · rw [zero, bare zero, numeral_zero]
    exact .zero
  · obtain ⟨c, cs, lead, nonzero⟩ := numeral_of_pos pos
    have digits := (isDigits_numeral n).2
    rw [lead] at digits ⊢
    rw [List.cons_append]
    refine .digits nonzero fun d hd => ?_
    rw [← List.cons_append, List.mem_append] at hd
    rcases hd with hd | hd
    · exact digits d hd
    · rw [List.eq_of_mem_replicate hd]
      rfl

/-- A point between the digits of a positive number. -/
theorem isUnsigned_split {n : Nat} (pos : 0 < n) {place : Nat} (behind : 0 < place)
    (before : place < (numeral n).length) :
    IsUnsigned ((numeral n).take place ++ '.' :: (numeral n).drop place) := by
  obtain ⟨c, cs, lead, nonzero⟩ := numeral_of_pos pos
  obtain ⟨place, rfl⟩ : ∃ less, place = less + 1 := ⟨place - 1, by omega⟩
  have digits := (isDigits_numeral n).2
  rw [lead] at digits before ⊢
  rw [List.length_cons] at before
  refine ⟨(c :: cs).take (place + 1), '.' :: cs.drop place, [], by simp, ?_, .digits ⟨?_, ?_⟩,
    .absent⟩
  · exact .digits nonzero fun d hd => digits d (List.mem_of_mem_take (i := place + 1) hd)
  · intro empty
    have short := List.drop_eq_nil_iff.mp empty
    omega
  · exact fun d hd => digits d (List.mem_cons_of_mem _ (List.mem_of_mem_drop hd))

theorem isUnsigned_positionalText {n : Nat} {exponent : Int} (bare : n = 0 → exponent = 0) :
    IsUnsigned (positionalText true (numeral n) exponent) := by
  unfold positionalText
  dsimp only
  split
  · refine ⟨numeral n ++ List.replicate exponent.toNat '0', '.' :: numeral 0, [], ?_, ?_, ?_,
      .absent⟩
    · simp [numeral_zero]
    · exact isWhole_shifted fun zero => by rw [bare zero]; rfl
    · exact .digits (isDigits_numeral 0)
  · next small =>
    have pos : 0 < n := Nat.pos_of_ne_zero fun zero => small (Int.le_of_eq (bare zero).symm)
    split
    · exact isUnsigned_split pos (by omega) (by omega)
    · refine ⟨['0'], _, [], by rw [List.append_nil]; rfl, .zero, .digits ?_, .absent⟩
      exact isDigits_replicate_append _ (isDigits_numeral n)

theorem isExponent_intNumeral (i : Int) : IsExponent ('e' :: intNumeral i) := by
  unfold intNumeral
  split
  · exact .digits (.inl rfl) (.inr (.inr rfl)) (isDigits_numeral i.natAbs)
  · exact .digits (.inl rfl) (.inl rfl) (isDigits_numeral i.natAbs)

theorem isUnsigned_scientificText {n : Nat} (pos : 0 < n) (exponent : Int) :
    IsUnsigned (scientificText (numeral n) exponent) := by
  obtain ⟨c, cs, lead, nonzero⟩ := numeral_of_pos pos
  have digits := (isDigits_numeral n).2
  rw [lead] at digits ⊢
  refine ⟨[c], if cs.isEmpty then [] else '.' :: cs, 'e' :: intNumeral exponent, ?_, ?_, ?_,
    isExponent_intNumeral exponent⟩
  · simp [scientificText]
  · refine .digits nonzero fun d hd => digits d ?_
    rw [List.mem_singleton.mp hd]
    exact List.mem_cons_self
  · cases cs with
    | nil => exact .absent
    | cons d ds =>
      have later := fun e he => digits e (List.mem_cons_of_mem c he)
      exact .digits ⟨List.cons_ne_nil _ _, later⟩

theorem isUnsigned_absText (x : Binary64) : IsUnsigned (absText .json x) := by
  unfold absText
  dsimp only
  split
  · exact isUnsigned_positionalText exponent_shortest
  · next scientific =>
    rw [Bool.or_eq_true, not_or, beq_iff_eq] at scientific
    exact isUnsigned_scientificText (Nat.pos_of_ne_zero scientific.1) _

/-- The token of every float is a number. -/
theorem isNumber_finiteText (x : Binary64) : IsNumber (finiteText .json x) := by
  obtain ⟨whole, fraction, exponent, same, isWhole, isFraction, isExponent⟩ := isUnsigned_absText x
  unfold finiteText
  rw [same]
  split
  · exact .parts (.inr rfl) isWhole isFraction isExponent
  · exact .parts (.inl rfl) isWhole isFraction isExponent

end Telemetry.Json
