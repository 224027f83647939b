import Mathlib.Data.List.Basic
import Telemetry.Console.Line
import Telemetry.Proofs.Json.Visible

/-! Lines of text with colors and without. A record's own texts are the only other source of escape
characters, so for records that have none the sequences in a line are known: each is a reset, or a
color that is taken back behind a text. Main result: `colors_change_nothing_else`. -/
namespace Telemetry.Console

mutual

/-- What is left of a text without its escape sequences. Each is `ESC [` and what follows up to the
next `m`, which is all of it where there is none. -/
def withoutSequences : List Char → List Char
  | '\x1b' :: '[' :: rest => behindSequence rest
  | c :: rest => c :: withoutSequences rest
  | [] => []

def behindSequence : List Char → List Char
  | 'm' :: rest => withoutSequences rest
  | _ :: rest => behindSequence rest
  | [] => []

end

theorem withoutSequences_append {l : List Char} (free : '\x1b' ∉ l) (rest : List Char) :
    withoutSequences (l ++ rest) = l ++ withoutSequences rest := by
  induction l with
  | nil => rfl
  | cons c l ih =>
    rw [List.mem_cons, not_or] at free
    rw [List.cons_append, withoutSequences, ih free.2, List.cons_append]
    rintro _ rfl
    exact absurd rfl free.1

theorem behindSequence_append {l : List Char} (free : 'm' ∉ l) (rest : List Char) :
    behindSequence (l ++ 'm' :: rest) = withoutSequences rest := by
  induction l with
  | nil => rfl
  | cons c l ih =>
    rw [List.mem_cons, not_or] at free
    rw [List.cons_append, behindSequence, ih free.2]
    exact Ne.symm free.1

namespace Segment

/-- What is behind the escape character where a color of the palette is chosen. -/
def parameters (color : Nat) : List Char :=
  ['[', '3', '8', ';', '5', ';'] ++ Decimal.numeral color ++ ['m']

/-- Chooses a color of the palette. -/
def selection (color : Nat) : List Char := '\x1b' :: parameters color

theorem setColor_eq (color : Nat) : setColor color = reset ++ selection color := by
  have introducer : "\x1b[38;5;".toList = ['\x1b', '[', '3', '8', ';', '5', ';'] := rfl
  rw [setColor, introducer, selection, parameters, List.append_assoc reset, List.append_assoc reset]
  rfl

theorem escape_notMem_parameters (color : Nat) : '\x1b' ∉ parameters color := by
  rw [parameters, List.mem_append, List.mem_append, not_or, not_or]
  exact ⟨⟨by decide, Decimal.notMem_numeral rfl color⟩, by decide⟩

theorem render_false (s : Segment) : s.render false = s.text := by
  unfold render
  cases s.color <;> rfl

theorem withoutSequences_reset (rest : List Char) :
    withoutSequences (reset ++ rest) = withoutSequences rest :=
  behindSequence_append (l := ['0']) (by decide) rest

theorem withoutSequences_selection (color : Nat) (rest : List Char) :
    withoutSequences (selection color ++ rest) = withoutSequences rest := by
  have free : 'm' ∉ ['3', '8', ';', '5', ';'] ++ Decimal.numeral color := by
    rw [List.mem_append, not_or]
    exact ⟨by decide, Decimal.notMem_numeral rfl color⟩
  have behind := behindSequence_append free rest
  rw [selection, parameters, List.cons_append, List.append_assoc, List.singleton_append,
    List.cons_append, List.cons_append, withoutSequences, behind]

theorem withoutSequences_render {s : Segment} (free : '\x1b' ∉ s.text) (rest : List Char) :
    withoutSequences (s.render true ++ rest) = s.text ++ withoutSequences rest := by
  unfold render
  cases s.color with
  | none => exact withoutSequences_append free rest
  | some color =>
    dsimp only
    rw [if_pos rfl, setColor_eq]
    simp only [List.append_assoc]
    rw [withoutSequences_reset, withoutSequences_selection, withoutSequences_append free,
      withoutSequences_reset]

end Segment

/-- Deleting the sequences takes the colors out of a line, and nothing else. -/
theorem withoutSequences_flatMap_render {l : List Segment} (bare : ∀ s ∈ l, '\x1b' ∉ s.text) :
    withoutSequences (l.flatMap (·.render true)) = l.flatMap (·.render false) := by
  induction l with
  | nil => rfl
  | cons s rest ih =>
    rw [List.flatMap_cons, List.flatMap_cons, Segment.withoutSequences_render (bare s List.mem_cons_self),
      ih fun t later => bare t (List.mem_cons_of_mem s later), Segment.render_false]

/-- What an escape character of a line starts: a reset, or a color for a text behind which the reset
comes. All of it is in front of the line's end. -/
def ReachesReset (l ending : List Char) : Prop :=
  (∃ rest, l = Segment.reset ++ rest ++ ending) ∨
    ∃ color text rest, l = Segment.selection color ++ text ++ Segment.reset ++ rest ++ ending ∧
      '\x1b' ∉ text

theorem escape_after {x y before after : List Char} (free : '\x1b' ∉ x)
    (same : x ++ y = before ++ '\x1b' :: after) :
    ∃ between, before = x ++ between ∧ y = between ++ '\x1b' :: after := by
  rcases List.append_eq_append_iff.mp same with ⟨between, rfl, behind⟩ | ⟨overlap, rfl, behind⟩
  · exact ⟨between, rfl, behind⟩
  · cases overlap with
    | nil => exact ⟨[], by simp, behind.symm⟩
    | cons c overlap =>
      obtain ⟨rfl, _⟩ := List.cons.inj behind
      exact absurd (List.mem_append_right _ List.mem_cons_self) free

/-- An escape character in such a list is the first one, or it is in `y`. -/
theorem escape_eq_or_later {x y before after : List Char} (free : '\x1b' ∉ x)
    (same : '\x1b' :: (x ++ y) = before ++ '\x1b' :: after) :
    after = x ++ y ∨ ∃ between, y = between ++ '\x1b' :: after := by
  cases before with
  | nil => exact .inl (List.cons.inj same).2.symm
  | cons _ before =>
    obtain ⟨between, _, behind⟩ := escape_after free (List.cons.inj same).2
    exact .inr ⟨between, behind⟩

theorem reachesReset_or_later {s : Segment} (free : '\x1b' ∉ s.text)
    {rest ending before after : List Char}
    (same : s.render true ++ (rest ++ ending) = before ++ '\x1b' :: after) :
    ReachesReset ('\x1b' :: after) ending ∨ ∃ between, rest ++ ending = between ++ '\x1b' :: after := by
  unfold Segment.render at same
  cases hue : s.color with
  | none =>
    rw [hue] at same
    obtain ⟨between, _, behind⟩ := escape_after free same
    exact .inr ⟨between, behind⟩
  | some color =>
    have bare : '\x1b' ∉ Segment.parameters color ++ s.text := by
      rw [List.mem_append, not_or]
      exact ⟨Segment.escape_notMem_parameters color, free⟩
    -- The three sequences of a colored segment, each with what is behind its escape character.
    have sequences : '\x1b' :: (['[', '0', 'm'] ++
        '\x1b' :: (Segment.parameters color ++ s.text ++
          '\x1b' :: (['[', '0', 'm'] ++ (rest ++ ending)))) = before ++ '\x1b' :: after := by
      simpa [hue, Segment.setColor_eq, Segment.selection, Segment.reset] using same
    rcases escape_eq_or_later (by decide) sequences with rfl | ⟨_, sequences⟩
    · refine .inl (.inl ⟨Segment.selection color ++ s.text ++ Segment.reset ++ rest, ?_⟩)
      simp [Segment.selection, Segment.reset]
    rcases escape_eq_or_later bare sequences with rfl | ⟨_, sequences⟩
    · refine .inl (.inr ⟨color, s.text, rest, ?_, free⟩)
      simp [Segment.selection, Segment.reset]
    rcases escape_eq_or_later (by decide) sequences with rfl | later
    · exact .inl (.inl ⟨rest, by simp [Segment.reset]⟩)
    · exact .inr later

/-- However many segments there are, each takes its own color back. -/
theorem reachesReset_of_flatMap_render {l : List Segment} (bare : ∀ s ∈ l, '\x1b' ∉ s.text)
    {ending before after : List Char} (last : '\x1b' ∉ ending)
    (same : l.flatMap (·.render true) ++ ending = before ++ '\x1b' :: after) :
    ReachesReset ('\x1b' :: after) ending := by
  induction l generalizing before with
  | nil =>
    rw [List.flatMap_nil, List.nil_append] at same
    exact absurd (same ▸ List.mem_append_right _ List.mem_cons_self) last
  | cons s rest ih =>
    rw [List.flatMap_cons, List.append_assoc] at same
    rcases reachesReset_or_later (bare s List.mem_cons_self) same with here | ⟨_, later⟩
    · exact here
    · exact ih (fun t inside => bare t (List.mem_cons_of_mem s inside)) later

theorem isVisible_padded (width n : Nat) :
    ∀ c ∈ Decimal.padded width n, Json.isVisible c = true := by
  intro c member
  rcases List.mem_append.mp member with filled | inside
  · rw [List.eq_of_mem_replicate filled]
    rfl
  · exact Json.isVisible_of_isDigit (Decimal.isDigit_of_mem_numeral inside)

theorem isVisible_timeOfDay (t : Timestamp) :
    ∀ c ∈ t.timeOfDay.toList, Json.isVisible c = true := by
  intro c member
  rw [Timestamp.timeOfDay, Timestamp.clock, String.toList_ofList] at member
  simp only [List.mem_append, List.mem_cons] at member
  rcases member with ((hours | rfl | minutes) | rfl | seconds) | rfl | millis
  · exact isVisible_padded _ _ c hours
  · rfl
  · exact isVisible_padded _ _ c minutes
  · rfl
  · exact isVisible_padded _ _ c seconds
  · rfl
  · exact isVisible_padded _ _ c millis

theorem escape_notMem_name (l : Level) : '\x1b' ∉ l.name.toList := by
  cases l with
  | debug => decide
  | info => decide
  | warn => decide
  | error => decide

/-- An escape character is in what the record says itself. -/
def HasEscape (r : Log.Record) : Prop :=
  '\x1b' ∈ r.scope.toList ∨ '\x1b' ∈ r.message.toList ∨
    ∃ p ∈ r.properties, '\x1b' ∈ p.1.toList ∨ ∃ piece ∈ p.2.pieces, '\x1b' ∈ piece.toList

theorem hasEscape_of_propertySegments {r : Log.Record} {p : String × Log.Value}
    (own : p ∈ r.properties) {s : Segment} (part : s ∈ propertySegments p)
    (escape : '\x1b' ∈ s.text) : HasEscape r := by
  rcases List.mem_append.mp part with key | value
  · simp only [List.mem_cons, List.not_mem_nil, or_false] at key
    rcases key with rfl | rfl | rfl
    · exact absurd escape (by decide)
    · exact .inr (.inr ⟨p, own, .inl escape⟩)
    · exact absurd escape (by decide)
  · obtain ⟨piece, shown, rfl⟩ := List.mem_map.mp value
    exact .inr (.inr ⟨p, own, .inr ⟨piece, shown, escape⟩⟩)

theorem hasEscape_of_mem_segments {r : Log.Record} {s : Segment} (part : s ∈ segments r)
    (escape : '\x1b' ∈ s.text) : HasEscape r := by
  simp only [segments, List.mem_append, List.mem_cons, List.not_mem_nil, or_false,
    List.mem_flatMap] at part
  rcases part with ((rfl | rfl | rfl | rfl | rfl) | ⟨p, own, part⟩) | rfl
  · rw [Segment.plain, String.toList_append, List.mem_append] at escape
    rcases escape with time | blank
    · exact absurd rfl (Json.ne_of_isVisible (isVisible_timeOfDay r.timestamp _ time) rfl)
    · exact absurd blank (by decide)
  · exact absurd escape (escape_notMem_name r.level)
  · exact absurd escape (by decide)
  · rw [Segment.colored, String.toList_append, List.mem_append] at escape
    rcases escape with scope | blank
    · exact .inl scope
    · exact absurd blank (by decide)
  · exact .inr (.inl escape)
  · exact hasEscape_of_propertySegments own part escape
  · exact absurd escape (by decide)

/-- Without colors a line has no escape characters but those of its record. -/
theorem hasEscape_of_textLine {r : Log.Record} (escape : '\x1b' ∈ textLine false r) :
    HasEscape r := by
  obtain ⟨s, part, rendered⟩ := List.mem_flatMap.mp escape
  rw [Segment.render_false] at rendered
  exact hasEscape_of_mem_segments part rendered

theorem mem_display {v : Log.Value} {c : Char} :
    c ∈ v.display.toList ↔ ∃ piece ∈ v.pieces, c ∈ piece.toList := by
  rw [Log.Value.display, String.toList_join, List.mem_flatMap]

/-- Where a record has no escape characters, its line in colors is its plain line once the escape
sequences are deleted. Each of them is a reset, or a color behind whose text comes the reset, all
before the newline of the line. -/
theorem colors_change_nothing_else (r : Log.Record) (scope : '\x1b' ∉ r.scope.toList)
    (message : '\x1b' ∉ r.message.toList)
    (properties : ∀ p ∈ r.properties, '\x1b' ∉ p.1.toList ∧ '\x1b' ∉ p.2.display.toList) :
    withoutSequences (textLine true r) = textLine false r ∧
      ∀ before after, textLine true r = before ++ '\x1b' :: after →
        ReachesReset ('\x1b' :: after) ['\n'] := by
  have clean : ¬ HasEscape r := by
    rintro (inScope | inMessage | ⟨p, own, inKey | inValue⟩)
    · exact scope inScope
    · exact message inMessage
    · exact (properties p own).1 inKey
    · exact (properties p own).2 (mem_display.mpr inValue)
  have bare : ∀ s ∈ segments r, '\x1b' ∉ s.text := fun s part escape =>
    clean (hasEscape_of_mem_segments part escape)
  obtain ⟨body, parts⟩ : ∃ body, segments r = body ++ [.plain "\n"] := ⟨_, rfl⟩
  refine ⟨withoutSequences_flatMap_render bare, fun before after same => ?_⟩
  rw [textLine, parts, List.flatMap_append] at same
  have inside : ∀ s ∈ body, '\x1b' ∉ s.text := fun s part =>
    bare s (parts ▸ List.mem_append_left _ part)
  exact reachesReset_of_flatMap_render inside (by decide) same

/-- A record in which each kind of segment has its own color. -/
def mixed : Log.Record := ⟨.ofParts 1700000000 0, .warn, "myapp.logger", "two\nlines",
  [("n", .signed 7), ("ok", .bool true), ("shown", .shown ["a", "mm[m"])]⟩

theorem colors_change_nothing_else_mixed :
    '\x1b' ∉ mixed.scope.toList ∧ '\x1b' ∉ mixed.message.toList ∧
      (∀ p ∈ mixed.properties, '\x1b' ∉ p.1.toList ∧ '\x1b' ∉ p.2.display.toList) ∧
      withoutSequences (textLine true mixed) = textLine false mixed ∧
      ∀ before after, textLine true mixed = before ++ '\x1b' :: after →
        ReachesReset ('\x1b' :: after) ['\n'] := by
  have scope : '\x1b' ∉ mixed.scope.toList := by decide
  have message : '\x1b' ∉ mixed.message.toList := by decide
  have properties : ∀ p ∈ mixed.properties, '\x1b' ∉ p.1.toList ∧ '\x1b' ∉ p.2.display.toList := by
    decide +kernel
  exact ⟨scope, message, properties, colors_change_nothing_else mixed scope message properties⟩

end Telemetry.Console
