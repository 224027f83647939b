import Mathlib.Data.List.Infix
import Telemetry.Proofs.Console.Colors
import Telemetry.Proofs.Console.JsonLine

/-! What several destinations write on one thread. They share a buffer, and so the choice of colors
that the thread's first record made; nothing else of a record reaches the lines after it. Main
result: `line_alone_iff`. -/
namespace Telemetry.Console

/-- The line of a record. Colors are for text only. -/
def line (colors : Bool) (o : Output) (r : Log.Record) : List Char :=
  if o.json then jsonLine r else textLine colors r

/-- What is written of the first record of a thread. -/
def alone (terminal : Bool) (o : Output) (r : Log.Record) : String := (write terminal o r none).1

/-- The destination of a thread's first record, which is `o` where no records come before. -/
def firstOutput (before : List (Output × Log.Record)) (o : Output) : Output :=
  (before.head?.map (·.1)).getD o

/-- A change of color is among the characters. -/
def HasColor (l : List Char) : Prop := ∃ color, Segment.setColor color <:+: l

theorem HasColor.escape_mem {l : List Char} (colored : HasColor l) : '\x1b' ∈ l := by
  obtain ⟨color, inside⟩ := colored
  exact inside.subset (List.mem_append_left _ (List.mem_append_left _ (List.mem_append_left _
    List.mem_cons_self)))

namespace Segment

theorem length_render_le (s : Segment) : (s.render false).length ≤ (s.render true).length := by
  unfold render
  cases s.color with
  | none => exact Nat.le_refl _
  | some color =>
    simp only [if_true, Bool.false_eq_true, if_false, List.length_append]
    omega

theorem length_flatMap_render_le (l : List Segment) :
    (l.flatMap (·.render false)).length ≤ (l.flatMap (·.render true)).length := by
  induction l with
  | nil => exact Nat.le_refl _
  | cons s rest ih =>
    rw [List.flatMap_cons, List.flatMap_cons, List.length_append, List.length_append]
    exact Nat.add_le_add s.length_render_le ih

end Segment

/-- The scope is colored in the line of every record. -/
theorem exists_scope (r : Log.Record) : ∃ front back,
    segments r = front ++ Segment.colored scopeColor (r.scope ++ " ") :: back := by
  let front : List Segment := [.plain (r.timestamp.timeOfDay ++ " "),
    ⟨r.level.name.toList, levelColor r.level⟩, .plain " "]
  exact ⟨front, .plain r.message :: (r.properties.flatMap propertySegments ++ [.plain "\n"]), rfl⟩

theorem hasColor_textLine (r : Log.Record) : HasColor (textLine true r) := by
  obtain ⟨front, back, parts⟩ := exists_scope r
  refine ⟨scopeColor, front.flatMap (·.render true),
    (r.scope ++ " ").toList ++ Segment.reset ++ back.flatMap (·.render true), ?_⟩
  rw [textLine, parts, List.flatMap_append, List.flatMap_cons]
  simp [Segment.render, Segment.colored]

theorem textLine_ne (r : Log.Record) : textLine true r ≠ textLine false r := by
  obtain ⟨front, back, parts⟩ := exists_scope r
  intro same
  have lengths := congrArg List.length same
  rw [textLine, textLine, parts] at lengths
  simp only [List.flatMap_append, List.flatMap_cons, List.length_append] at lengths
  have before := Segment.length_flatMap_render_le front
  have after := Segment.length_flatMap_render_le back
  have longer : (Segment.render false (.colored scopeColor (r.scope ++ " "))).length <
      (Segment.render true (.colored scopeColor (r.scope ++ " "))).length := by
    simp only [Segment.render, Segment.colored, if_true, Bool.false_eq_true, if_false,
      List.length_append]
    have : 0 < Segment.reset.length := Nat.zero_lt_succ _
    omega
  omega

variable (terminal : Bool) (o : Output) (r : Log.Record)

/-- What a kept buffer holds plays no part, only whether it shows colors. -/
theorem write_some (b : Buffer) : write terminal o r (some b) =
    (String.ofList (line b.showsColors o r), some ⟨b.showsColors, line b.showsColors o r⟩) := rfl

theorem write_none : write terminal o r none =
    (String.ofList (line (o.showsColors terminal) o r),
      some ⟨o.showsColors terminal, line (o.showsColors terminal) o r⟩) := rfl

theorem writeAll_some (l : List (Output × Log.Record)) (b : Buffer) :
    writeAll terminal l (some b) = l.map fun p => String.ofList (line b.showsColors p.1 p.2) := by
  induction l generalizing b with
  | nil => rfl
  | cons p rest ih =>
    rw [writeAll, write_some, List.map_cons]
    exact congrArg _ (ih ⟨b.showsColors, line b.showsColors p.1 p.2⟩)

/-- All lines of a thread are written with the colors of its first record. -/
theorem writeAll_none (first : Output × Log.Record) (rest : List (Output × Log.Record)) :
    writeAll terminal (first :: rest) none =
      (first :: rest).map fun p => String.ofList (line (first.1.showsColors terminal) p.1 p.2) := by
  rw [writeAll, write_none, List.map_cons]
  exact congrArg _ (writeAll_some terminal rest _)

theorem getElem?_writeAll (before after : List (Output × Log.Record)) :
    (writeAll terminal (before ++ (o, r) :: after) none)[before.length]? =
      some (String.ofList (line ((firstOutput before o).showsColors terminal) o r)) := by
  cases before with
  | nil =>
    rw [List.nil_append, writeAll_none]
    rfl
  | cons first rest =>
    rw [List.cons_append, writeAll_none, List.getElem?_map, ← List.cons_append]
    simp [firstOutput]

theorem line_eq_iff (colors : Bool) : line colors o r = line (o.showsColors terminal) o r ↔
    o.json = true ∨ o.showsColors terminal = colors := by
  unfold line
  cases o.json with
  | true => simp
  | false =>
    have differ := textLine_ne r
    cases o.showsColors terminal <;> cases colors <;> simp [differ, differ.symm]

/-- Whatever a thread writes before and after, the line of a record is what its destination writes
of it alone exactly when that is JSON, or shows colors just if the destination of the thread's first
record does. In any case that choice is all that comes from earlier records. JSON never has an
escape character, text that is to show colors has them, and other text has only the escape
characters of its own record. -/
theorem line_alone_iff (before after : List (Output × Log.Record)) :
    let colors := (firstOutput before o).showsColors terminal
    ∃ text, (writeAll terminal (before ++ (o, r) :: after) none)[before.length]? =
        some (String.ofList text) ∧
      (String.ofList text = alone terminal o r ↔
        o.json = true ∨ o.showsColors terminal = colors) ∧
      text = (if o.json then jsonLine r else textLine colors r) ∧
      (o.json = true → '\x1b' ∉ text) ∧
      (o.json = false → colors = true → HasColor text) ∧
      (o.json = false → colors = false → '\x1b' ∈ text → HasEscape r) := by
  intro colors
  refine ⟨line colors o r, getElem?_writeAll terminal o r before after, ?_, rfl, ?_, ?_, ?_⟩
  · rw [alone, write_none, String.ofList_inj]
    exact line_eq_iff terminal o r colors
  · intro json
    rw [line, if_pos json]
    exact escape_notMem_jsonLine r
  · intro plain shown
    rw [line, if_neg (by simp [plain]), shown]
    exact hasColor_textLine r
  · intro plain hidden member
    rw [line, if_neg (by simp [plain]), hidden] at member
    exact hasEscape_of_textLine member

def started : Log.Record := ⟨.ofParts 1700000000 0, .info, "myapp.logger", "started", []⟩

/-- Behind a record in colors, one that is to have none has them. Behind a record in JSON, one that
is to have colors has none. -/
theorem colors_outlive_record :
    let plain := Output.standard.colored false
    let colored := Output.standard.colored true
    let json := Output.standard.withJson true
    (∃ text, (writeAll false [(colored, started), (plain, started)] none)[1]? =
        some (String.ofList text) ∧ HasColor text ∧ String.ofList text ≠ alone false plain started) ∧
      ∃ text, (writeAll false [(json, started), (colored, started)] none)[1]? =
        some (String.ofList text) ∧ ¬ HasColor text ∧
          String.ofList text ≠ alone false colored started := by
  intro plain colored json
  constructor
  · refine ⟨textLine true started, rfl, hasColor_textLine started, fun same => ?_⟩
    exact textLine_ne started (String.ofList_inj.mp same)
  · refine ⟨textLine false started, rfl, fun shown => ?_, fun same => ?_⟩
    · have escape := hasEscape_of_textLine shown.escape_mem
      simp [HasEscape, started] at escape
    · exact textLine_ne started (String.ofList_inj.mp same).symm

end Telemetry.Console
