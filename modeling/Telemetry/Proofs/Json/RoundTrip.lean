import Telemetry.Json.Printer
import Telemetry.Proofs.Json.Parser

/-! The reader inverts the printer: every value whose numbers are numbers of the grammar is what its
text is read as. Each part is read with any text after it. Main result: `parse?_chars`. -/
namespace Telemetry.Json

variable {α : Type}

theorem readText_plain {c : Char} (quote : c ≠ '"') (backslash : c ≠ '\\')
    (visible : ¬ c.toNat < 0x20) (rest : List Char) :
    readText none (c :: rest) = (readText none rest).map fun (text, rest) => (c :: text, rest) := by
  rw [readText.eq_def]
  simp [quote, backslash, visible]

theorem codeUnit?_hexDigits {n : Nat} (control : n < 0x20) :
    codeUnit? ['0', '0', Text.hexDigit (n / 16), Text.hexDigit (n % 16)] = some n := by
  have all : ∀ n < 0x20,
      codeUnit? ['0', '0', Text.hexDigit (n / 16), Text.hexDigit (n % 16)] = some n := by decide
  exact all n control

theorem readText_control {c : Char} (control : c.toNat < 0x20) (rest : List Char) :
    readText none ('\\' :: 'u' :: '0' :: '0' :: Text.hexDigit (c.toNat / 16) ::
      Text.hexDigit (c.toNat % 16) :: rest) =
      (readText none rest).map fun (text, rest) => (c :: text, rest) := by
  have low : ¬ 0xd800 ≤ c.toNat := by omega
  have low' : ¬ 0xdc00 ≤ c.toNat := by omega
  rw [readText.eq_def]
  simp [codeUnit?_hexDigits control, low, low']

theorem readText_escapedChar (c : Char) (rest : List Char) :
    readText none (escapedChar c ++ rest) =
      (readText none rest).map fun (text, rest) => (c :: text, rest) := by
  unfold escapedChar
  split_ifs with quote backslash backspace formFeed newline carriageReturn tab control
  · rw [quote]; rfl
  · rw [backslash]; rfl
  · rw [backspace]; rfl
  · rw [formFeed]; rfl
  · rw [newline]; rfl
  · rw [carriageReturn]; rfl
  · rw [tab]; rfl
  · exact readText_control control rest
  · exact readText_plain quote backslash control rest

/-- A printed string is read as what is printed. -/
theorem readText_quote (s : String) (rest : List Char) :
    readText none (s.toList.flatMap escapedChar ++ '"' :: rest) = some (s.toList, rest) := by
  induction s.toList with
  | nil =>
    rw [List.flatMap_nil, List.nil_append, readText.eq_def]
    rfl
  | cons c l ih =>
    rw [List.flatMap_cons, List.append_assoc, readText_escapedChar, ih]
    rfl

mutual

/-- All numbers are numbers of the grammar. -/
def Value.IsWellFormed : Value → Prop
  | .number token => IsNumber token.toList
  | .array items => itemsWellFormed items
  | .object members => membersWellFormed members
  | _ => True

def itemsWellFormed : List Value → Prop
  | [] => True
  | v :: rest => v.IsWellFormed ∧ itemsWellFormed rest

def membersWellFormed : List (String × Value) → Prop
  | [] => True
  | (_, v) :: rest => v.IsWellFormed ∧ membersWellFormed rest

end

theorem Value.isWellFormed_ofNat (n : Nat) : (ofNat n).IsWellFormed := by
  rw [ofNat, IsWellFormed, Decimal.natText, String.toList_ofList]
  exact isNumber_numeral n

theorem Value.isWellFormed_ofInt (i : Int) : (ofInt i).IsWellFormed := by
  rw [ofInt, IsWellFormed, Decimal.intText, String.toList_ofList]
  exact isNumber_intNumeral i

theorem Value.isWellFormed_ofFloat (x : Binary64) : (ofFloat x).IsWellFormed := by
  unfold ofFloat
  split
  · rw [IsWellFormed, String.toList_ofList]
    exact isNumber_finiteText x
  · trivial

theorem skipBlanks_cons {c : Char} (visible : isBlank c = false) (rest : List Char) :
    skipBlanks (c :: rest) = c :: rest :=
  List.dropWhile_cons_of_neg (by simp [visible])

theorem readNumber_append {l rest : List Char} (number : IsNumber l) (stop : Stops rest) :
    readNumber (l ++ rest) = some (.number (String.ofList l), rest) := by
  simp [readNumber, number.read stop]

/-- The first character of a number is none of the others that values start with. -/
theorem ne_of_lead {c d : Char} (lead : Decimal.isDigit c = true ∨ c = '-')
    (other : Decimal.isDigit d = false ∧ d ≠ '-') : c ≠ d := by
  rintro rfl
  rcases lead with digit | minus
  · exact Bool.false_ne_true (other.1.symm.trans digit)
  · exact other.2 minus

theorem isBlank_of_lead {c : Char} (lead : Decimal.isDigit c = true ∨ c = '-') :
    isBlank c = false := by
  have space : c ≠ ' ' := ne_of_lead lead (by decide)
  have tab : c ≠ '\t' := ne_of_lead lead (by decide)
  have newline : c ≠ '\n' := ne_of_lead lead (by decide)
  have carriageReturn : c ≠ '\r' := ne_of_lead lead (by decide)
  simp [isBlank, space, tab, newline, carriageReturn]

theorem readValue_number {depth : Nat} {l rest : List Char} (number : IsNumber l)
    (stop : Stops rest) :
    readValue (depth + 1) (l ++ rest) = some (.number (String.ofList l), rest) := by
  have read := readNumber_append number stop
  obtain ⟨c, cs, rfl, lead⟩ := number.head
  have quote : c ≠ '"' := ne_of_lead lead (by decide)
  have bracket : c ≠ '[' := ne_of_lead lead (by decide)
  have brace : c ≠ '\x7b' := ne_of_lead lead (by decide)
  have null : c ≠ 'n' := ne_of_lead lead (by decide)
  have yes : c ≠ 't' := ne_of_lead lead (by decide)
  have no : c ≠ 'f' := ne_of_lead lead (by decide)
  rw [List.cons_append] at read ⊢
  rw [readValue, skipBlanks_cons (isBlank_of_lead lead)]
  simp only [quote, bracket, brace, null, yes, no, if_false, read]

/-- A printed value starts with a character that neither is blank nor ends a list. -/
theorem Value.chars_head {v : Value} (wellFormed : v.IsWellFormed) :
    ∃ c cs, v.chars = c :: cs ∧ isBlank c = false ∧ c ≠ ']' := by
  cases v with
  | null => exact ⟨'n', _, rfl, by decide, by decide⟩
  | bool b =>
    cases b with
    | false => exact ⟨'f', _, rfl, by decide, by decide⟩
    | true => exact ⟨'t', _, rfl, by decide, by decide⟩
  | number token =>
    obtain ⟨c, cs, same, lead⟩ := IsNumber.head wellFormed
    exact ⟨c, cs, same, isBlank_of_lead lead, ne_of_lead lead (by decide)⟩
  | string s => exact ⟨'"', _, rfl, by decide, by decide⟩
  | array items => exact ⟨'[', _, rfl, by decide, by decide⟩
  | object members => exact ⟨'\x7b', _, rfl, by decide, by decide⟩

theorem stops_cons {c : Char} (stop : Decimal.isDigit c = false ∧ c ≠ '.' ∧ c ≠ 'e' ∧ c ≠ 'E')
    (rest : List Char) : Stops (c :: rest) := by
  intro d hd
  obtain rfl := Option.some.inj hd
  exact stop

/-- What is printed one after the other with commas between and a closing bracket. -/
def separated (print : α → List Char) (close : Char) : List α → List Char
  | [] => [close]
  | [x] => print x ++ [close]
  | x :: rest => print x ++ ',' :: separated print close rest

def Value.memberChars (p : String × Value) : List Char := quote p.1 ++ ':' :: p.2.chars

theorem itemsChars_eq (l : List Value) : itemsChars l = separated Value.chars ']' l := by
  induction l with
  | nil => rfl
  | cons v rest ih =>
    cases rest with
    | nil => rfl
    | cons w rest => rw [itemsChars, separated, ih] <;> exact List.cons_ne_nil _ _

theorem membersChars_eq (l : List (String × Value)) :
    membersChars l = separated Value.memberChars '\x7d' l := by
  induction l with
  | nil => rfl
  | cons p rest ih =>
    cases rest with
    | nil => simp [membersChars, separated, Value.memberChars]
    | cons w rest => simp [membersChars, separated, Value.memberChars, ih]

section Lists

variable {read : List Char → Option (α × List Char)} {print : α → List Char} {close : Char}

theorem length_separated (l : List α) : l.length ≤ (separated print close l).length := by
  induction l with
  | nil => exact Nat.zero_le _
  | cons x rest ih =>
    cases rest with
    | nil => simp [separated]
    | cons y rest =>
      simp only [separated, List.length_append, List.length_cons] at ih ⊢
      omega

theorem length_print_lt {l : List α} {x : α} (hx : x ∈ l) :
    (print x).length < (separated print close l).length := by
  induction l with
  | nil => cases hx
  | cons y rest ih =>
    cases rest with
    | nil =>
      obtain rfl := List.mem_singleton.mp hx
      simp [separated]
    | cons z rest =>
      simp only [separated, List.length_append, List.length_cons]
      rcases List.mem_cons.mp hx with rfl | hx
      · omega
      · have later := ih hx
        omega

theorem readMore_separated (visible : isBlank close = false) (other : close ≠ ',') {l : List α}
    (filled : l ≠ [])
    (each : ∀ x ∈ l, ∀ next rest, next = ',' ∨ next = close →
      read (print x ++ next :: rest) = some (x, next :: rest))
    {count : Nat} (enough : l.length ≤ count) (rest : List Char) :
    readMore read close count (separated print close l ++ rest) = some (l, rest) := by
  induction l generalizing count with
  | nil => exact absurd rfl filled
  | cons x l ih =>
    rw [List.length_cons] at enough
    obtain ⟨count, rfl⟩ : ∃ less, count = less + 1 := ⟨count - 1, by omega⟩
    cases l with
    | nil =>
      have first := each x List.mem_cons_self close rest (.inr rfl)
      simp [separated, readMore, first, skipBlanks_cons visible]
    | cons y l =>
      have comma : isBlank ',' = false := by decide
      have first := each x List.mem_cons_self ',' (separated print close (y :: l) ++ rest)
        (.inl rfl)
      have later := ih (List.cons_ne_nil _ _) (fun x hx => each x (List.mem_cons_of_mem _ hx))
        (Nat.le_of_succ_le_succ enough)
      simp [separated, readMore, first, skipBlanks_cons comma, other.symm, later]

/-- A printed list is read to its closing bracket. -/
theorem readList_separated (visible : isBlank close = false) (other : close ≠ ',') {l : List α}
    (head : ∀ x ∈ l, ∃ c cs, print x = c :: cs ∧ isBlank c = false ∧ c ≠ close)
    (each : ∀ x ∈ l, ∀ next rest, next = ',' ∨ next = close →
      read (print x ++ next :: rest) = some (x, next :: rest)) (rest : List Char) :
    readList read close (separated print close l ++ rest) = some (l, rest) := by
  cases l with
  | nil => simp [separated, readList, skipBlanks_cons visible]
  | cons x l =>
    have enough : (x :: l).length ≤ (separated print close (x :: l) ++ rest).length := by
      have own : _ ≤ (separated print close (x :: l)).length := length_separated (x :: l)
      rw [List.length_append]
      omega
    have more := readMore_separated visible other (List.cons_ne_nil x l) each enough rest
    obtain ⟨c, cs, first, shown, further⟩ := head x List.mem_cons_self
    obtain ⟨tail, same⟩ : ∃ tail, separated print close (x :: l) ++ rest = c :: tail := by
      cases l with
      | nil => exact ⟨_, by rw [separated, first]; rfl⟩
      | cons y l => exact ⟨_, by rw [separated, first]; rfl; exact List.cons_ne_nil _ _⟩
    rw [same] at more ⊢
    simp only [readList, skipBlanks_cons shown, further, if_false]
    exact more

end Lists

theorem dropPrefix?_append (word rest : List Char) :
    (word ++ rest).dropPrefix? word = some rest :=
  List.dropPrefix?_eq_some_iff.mpr ⟨word, rfl, beq_self_eq_true word⟩

theorem readWord_append (word : String) (v : Value) (rest : List Char) :
    readWord word v (word.toList ++ rest) = some (v, rest) := by
  rw [readWord, dropPrefix?_append, Option.map_some]

theorem readValue_string (s : String) (depth : Nat) (rest : List Char) :
    readValue (depth + 1) (quote s ++ rest) = some (.string s, rest) := by
  have opened : readValue (depth + 1) (quote s ++ rest) =
      (readText none (s.toList.flatMap escapedChar ++ ['"'] ++ rest)).map fun p =>
        (.string (String.ofList p.1), p.2) := rfl
  rw [opened, List.append_assoc, List.singleton_append, readText_quote, Option.map_some,
    String.ofList_toList]

theorem readMember_append {read : List Char → Option (Value × List Char)} {v : Value}
    {l rest : List Char} (key : String) (value : read l = some (v, rest)) :
    readMember read (quote key ++ ':' :: l) = some ((key, v), rest) := by
  have quoted : isBlank '"' = false := by decide
  have colon : isBlank ':' = false := by decide
  have opened := dropPrefix?_append ['"'] (key.toList.flatMap escapedChar ++ '"' :: ':' :: l)
  have named := dropPrefix?_append [':'] l
  rw [List.singleton_append] at opened named
  simp only [readMember, quote, List.cons_append, List.append_assoc, List.nil_append,
    skipBlanks_cons quoted, opened, bind, Option.bind_some, readText_quote, skipBlanks_cons colon,
    named, value, pure, String.ofList_toList]

theorem itemsWellFormed_iff {l : List Value} : itemsWellFormed l ↔ ∀ v ∈ l, v.IsWellFormed := by
  induction l with
  | nil => simp [itemsWellFormed]
  | cons v rest ih => simp [itemsWellFormed, ih]

theorem membersWellFormed_iff {l : List (String × Value)} :
    membersWellFormed l ↔ ∀ p ∈ l, p.2.IsWellFormed := by
  induction l with
  | nil => simp [membersWellFormed]
  | cons p rest ih => simp [membersWellFormed, ih]

theorem readValue_array {depth : Nat} {items : List Value}
    (wellFormed : ∀ v ∈ items, v.IsWellFormed)
    (each : ∀ v ∈ items, ∀ next rest, next = ',' ∨ next = ']' →
      readValue depth (v.chars ++ next :: rest) = some (v, next :: rest)) (rest : List Char) :
    readValue (depth + 1) ((Value.array items).chars ++ rest) = some (.array items, rest) := by
  have opened : readValue (depth + 1) ((Value.array items).chars ++ rest) =
      (readList (readValue depth) ']' (itemsChars items ++ rest)).map fun p =>
        (.array p.1, p.2) := rfl
  have list := readList_separated (by decide) (by decide)
    (fun v hv => v.chars_head (wellFormed v hv)) each rest
  rw [opened, itemsChars_eq, list]
  rfl

theorem readValue_object {depth : Nat} {members : List (String × Value)}
    (each : ∀ p ∈ members, ∀ next rest, next = ',' ∨ next = '\x7d' →
      readValue depth (p.2.chars ++ next :: rest) = some (p.2, next :: rest)) (rest : List Char) :
    readValue (depth + 1) ((Value.object members).chars ++ rest) =
      some (.object members, rest) := by
  have opened : readValue (depth + 1) ((Value.object members).chars ++ rest) =
      (readList (readMember (readValue depth)) '\x7d' (membersChars members ++ rest)).map fun p =>
        (.object p.1, p.2) := rfl
  have member : ∀ p ∈ members, ∀ next rest, next = ',' ∨ next = '\x7d' →
      readMember (readValue depth) (Value.memberChars p ++ next :: rest) =
        some (p, next :: rest) := by
    intro p hp next rest ends
    rw [Value.memberChars, List.append_assoc, List.cons_append]
    exact readMember_append p.1 (each p hp next rest ends)
  have head : ∀ p ∈ members, ∃ c cs, Value.memberChars p = c :: cs ∧ isBlank c = false ∧
      c ≠ '\x7d' := fun p _ => ⟨'"', _, rfl, by decide, by decide⟩
  have list := readList_separated (by decide) (by decide) head member rest
  rw [opened, membersChars_eq, list]
  rfl

/-- A printed value is read as it is, with any text after it that does not go on with a number. -/
theorem readValue_chars {v : Value} (wellFormed : v.IsWellFormed) {depth : Nat}
    (enough : v.chars.length ≤ depth) {rest : List Char} (stop : Stops rest) :
    readValue depth (v.chars ++ rest) = some (v, rest) := by
  -- The length of the text bounds how deep it is nested: what is inside brackets is shorter.
  induction depth generalizing v rest with
  | zero =>
    obtain ⟨c, cs, same, _⟩ := v.chars_head wellFormed
    rw [same] at enough
    cases enough
  | succ depth ih =>
    cases v with
    | null => exact readWord_append "null" .null rest
    | bool b =>
      cases b with
      | false => exact readWord_append "false" (.bool false) rest
      | true => exact readWord_append "true" (.bool true) rest
    | number token =>
      have read : readValue (depth + 1) (token.toList ++ rest) = _ := readValue_number wellFormed stop
      rwa [String.ofList_toList] at read
    | string s => exact readValue_string s depth rest
    | array items =>
      have known := itemsWellFormed_iff.mp wellFormed
      have inside : (itemsChars items).length ≤ depth := Nat.le_of_succ_le_succ enough
      rw [itemsChars_eq] at inside
      refine readValue_array known (fun v hv next rest ends => ?_) rest
      have short : v.chars.length < (separated Value.chars ']' items).length := length_print_lt hv
      refine ih (known v hv) (by omega) (stops_cons ?_ rest)
      rcases ends with rfl | rfl <;> decide
    | object members =>
      have known := membersWellFormed_iff.mp wellFormed
      have inside : (membersChars members).length ≤ depth := Nat.le_of_succ_le_succ enough
      rw [membersChars_eq] at inside
      refine readValue_object (fun p hp next rest ends => ?_) rest
      have short : (Value.memberChars p).length <
          (separated Value.memberChars '\x7d' members).length := length_print_lt hp
      rw [Value.memberChars, List.length_append, List.length_cons] at short
      refine ih (known p hp) (by omega) (stops_cons ?_ rest)
      rcases ends with rfl | rfl <;> decide

/-- Every printed value is one JSON text, and it is the text of that value. -/
theorem parse?_chars {v : Value} (wellFormed : v.IsWellFormed) : parse? v.chars = some v := by
  have ending : Stops [] := fun c hc => by cases hc
  have read := readValue_chars wellFormed (Nat.le_refl _) ending
  rw [List.append_nil] at read
  simp [parse?, read, skipBlanks]

end Telemetry.Json
