import Telemetry.Proofs.Json.RoundTrip

/-! JSON text has no control characters: inside strings they are escaped, and nothing else has any.
So a text stays on one line, and no terminal takes a part of it for a command. Main result:
`Value.isVisible_chars`. -/
namespace Telemetry.Json

/-- Whether a character is none of the first 32, which are controls. -/
def isVisible (c : Char) : Bool := 0x20 ≤ c.toNat

theorem ne_of_isVisible {c d : Char} (visible : isVisible c = true) (control : isVisible d = false) :
    c ≠ d := by
  rintro rfl
  exact Bool.false_ne_true (control.symm.trans visible)

theorem isVisible_hexDigit {n : Nat} (small : n < 16) : isVisible (Text.hexDigit n) = true := by
  have all : ∀ n < 16, isVisible (Text.hexDigit n) = true := by decide
  exact all n small

theorem isVisible_of_all {l : List Char} (all : l.all isVisible = true) :
    ∀ c ∈ l, isVisible c = true := List.all_eq_true.mp all

theorem isVisible_escapedChar (c : Char) : ∀ d ∈ escapedChar c, isVisible d = true := by
  unfold escapedChar
  split_ifs with quote backslash backspace formFeed newline carriageReturn tab control
  · exact isVisible_of_all rfl
  · exact isVisible_of_all rfl
  · exact isVisible_of_all rfl
  · exact isVisible_of_all rfl
  · exact isVisible_of_all rfl
  · exact isVisible_of_all rfl
  · exact isVisible_of_all rfl
  · have high := isVisible_hexDigit (n := c.toNat / 16) (by omega)
    have low := isVisible_hexDigit (n := c.toNat % 16) (by omega)
    have lead : ∀ d ∈ ['\\', 'u', '0', '0'], isVisible d = true :=
      isVisible_of_all rfl
    intro d member
    rcases List.mem_append.mp (show d ∈ ['\\', 'u', '0', '0'] ++ [_, _] from member) with first | last
    · exact lead d first
    · simp only [List.mem_cons, List.not_mem_nil, or_false] at last
      rcases last with rfl | rfl
      · exact high
      · exact low
  · intro d member
    rw [List.mem_singleton.mp member, isVisible, decide_eq_true_eq]
    omega

theorem isVisible_quote (s : String) : ∀ c ∈ quote s, isVisible c = true := by
  intro c member
  simp only [quote, List.mem_cons, List.mem_append, List.mem_flatMap, List.not_mem_nil,
    or_false] at member
  rcases member with rfl | ⟨d, _, escaped⟩ | rfl
  · rfl
  · exact isVisible_escapedChar d c escaped
  · rfl

theorem isVisible_of_isDigit {c : Char} (digit : Decimal.isDigit c = true) : isVisible c = true := by
  unfold Decimal.isDigit at digit
  rw [Bool.and_eq_true, decide_eq_true_eq, decide_eq_true_eq] at digit
  have low : '0'.toNat ≤ c.toNat := digit.1
  have zero : '0'.toNat = 48 := rfl
  rw [isVisible, decide_eq_true_eq]
  omega

theorem IsNumber.isVisible {l : List Char} (number : IsNumber l) : ∀ c ∈ l, isVisible c = true := by
  obtain @⟨sign, whole, fraction, exponent, signed, isWhole, isFraction, isExponent⟩ := number
  intro c member
  rw [List.mem_append, List.mem_append, List.mem_append] at member
  rcases member with inSign | inWhole | inFraction | inExponent
  · rcases signed with rfl | rfl
    · cases inSign
    · rw [List.mem_singleton.mp inSign]
      rfl
  · cases isWhole with
    | zero =>
      rw [List.mem_singleton.mp inWhole]
      rfl
    | digits _ all => exact isVisible_of_isDigit (all c inWhole)
  · cases isFraction with
    | absent => cases inFraction
    | digits digits =>
      rcases List.mem_cons.mp inFraction with rfl | later
      · rfl
      · exact isVisible_of_isDigit (digits.2 c later)
  · cases isExponent with
    | absent => cases inExponent
    | digits marked signed digits =>
      rcases List.mem_cons.mp inExponent with rfl | later
      · rcases marked with rfl | rfl <;> rfl
      · rcases List.mem_append.mp later with inSign | inDigits
        · rcases signed with rfl | rfl | rfl
          · cases inSign
          · rw [List.mem_singleton.mp inSign]
            rfl
          · rw [List.mem_singleton.mp inSign]
            rfl
        · exact isVisible_of_isDigit (digits.2 c inDigits)

theorem isVisible_separated {α : Type} {print : α → List Char} {close : Char} {l : List α}
    (closed : isVisible close = true) (each : ∀ x ∈ l, ∀ c ∈ print x, isVisible c = true) :
    ∀ c ∈ separated print close l, isVisible c = true := by
  induction l with
  | nil =>
    intro c member
    rw [List.mem_singleton.mp member]
    exact closed
  | cons x rest ih =>
    have later := ih fun y hy => each y (List.mem_cons_of_mem x hy)
    have here := each x List.mem_cons_self
    intro c member
    cases rest with
    | nil =>
      rcases List.mem_append.mp member with inside | last
      · exact here c inside
      · rw [List.mem_singleton.mp last]
        exact closed
    | cons y rest =>
      rcases List.mem_append.mp member with inside | comma
      · exact here c inside
      · rcases List.mem_cons.mp comma with rfl | after
        · rfl
        · exact later c after

mutual

/-- A JSON text has no control characters. -/
theorem Value.isVisible_chars : ∀ v : Value, v.IsWellFormed → ∀ c ∈ v.chars, isVisible c = true
  | .null, _ => isVisible_of_all rfl
  | .bool true, _ => isVisible_of_all rfl
  | .bool false, _ => isVisible_of_all rfl
  | .number _, number => IsNumber.isVisible number
  | .string s, _ => isVisible_quote s
  | .array items, wellFormed => by
    rw [Value.chars, itemsChars_eq]
    have inside := isVisible_separated (show isVisible ']' = true from rfl)
      (isVisible_items items wellFormed)
    intro c member
    rcases List.mem_cons.mp member with rfl | later
    · rfl
    · exact inside c later
  | .object members, wellFormed => by
    rw [Value.chars, membersChars_eq]
    have inside := isVisible_separated (show isVisible '\x7d' = true from rfl)
      (isVisible_members members wellFormed)
    intro c member
    rcases List.mem_cons.mp member with rfl | later
    · rfl
    · exact inside c later

theorem isVisible_items : ∀ l : List Value, itemsWellFormed l →
    ∀ v ∈ l, ∀ c ∈ v.chars, isVisible c = true
  | [], _ => by
    intro v member
    cases member
  | v :: rest, wellFormed => by
    have here := Value.isVisible_chars v wellFormed.1
    intro w member
    rcases List.mem_cons.mp member with same | later
    · rw [same]
      exact here
    · exact isVisible_items rest wellFormed.2 w later

theorem isVisible_members : ∀ l : List (String × Value), membersWellFormed l →
    ∀ p ∈ l, ∀ c ∈ Value.memberChars p, isVisible c = true
  | [], _ => by
    intro p member
    cases member
  | (key, v) :: rest, wellFormed => by
    have here := Value.isVisible_chars v wellFormed.1
    intro p member
    rcases List.mem_cons.mp member with same | later
    · intro c member
      rw [same] at member
      rcases List.mem_append.mp member with inKey | behind
      · exact isVisible_quote key c inKey
      · rcases List.mem_cons.mp behind with rfl | inValue
        · rfl
        · exact here c inValue
    · exact isVisible_members rest wellFormed.2 p later

end

end Telemetry.Json
