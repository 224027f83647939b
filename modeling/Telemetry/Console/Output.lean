import Telemetry.Console.Line

/-! The console as a destination of records. A thread writes all of its records through one
buffer, and whether that can show colors was settled by the first record written. -/
namespace Telemetry.Console

inductive ColorChoice where
  /-- Colors where the terminal supports them. -/
  | auto
  | always
  | never
deriving DecidableEq, Repr

/-- How a destination writes: as JSON or as text, and with which colors. -/
structure Output where
  json : Bool
  color : ColorChoice
deriving DecidableEq, Repr

namespace Output

def standard : Output := ⟨false, .auto⟩

def colored (o : Output) (b : Bool) : Output := { o with color := if b then .always else .never }

/-- JSON lines have no colors, nor does what is written after going back from them. -/
def withJson (o : Output) (json : Bool) : Output := ⟨json, if json then .never else o.color⟩

/-- Whether a buffer made for this destination shows colors. -/
def showsColors (terminal : Bool) (o : Output) : Bool :=
  match o.color with
  | .auto => terminal
  | .always => true
  | .never => false

def diagnostic (o : Output) : String :=
  "Stdout \x7b json: " ++ (if o.json then "true" else "false") ++ ", .. \x7d"

end Output

/-- A buffer that lines are put together in. Whether it shows colors is settled when it is made. -/
structure Buffer where
  showsColors : Bool
  text : List Char
deriving DecidableEq, Repr

namespace Buffer

def empty (showsColors : Bool) : Buffer := ⟨showsColors, []⟩

def clear (b : Buffer) : Buffer := { b with text := [] }

/-- Puts a record behind what is there. -/
def add (b : Buffer) (o : Output) (r : Log.Record) : Buffer :=
  { b with text := b.text ++ if o.json then jsonLine r else textLine b.showsColors r }

end Buffer

/-- What is written of a record, and the thread's buffer after it. A thread that has a buffer
clears it and uses it again. -/
def write (terminal : Bool) (o : Output) (r : Log.Record) (kept : Option Buffer) :
    String × Option Buffer :=
  let buffer := match kept with
    | some buffer => buffer.clear
    | none => .empty (o.showsColors terminal)
  let buffer := buffer.add o r
  (String.ofList buffer.text, some buffer)

/-- The lines of records that one thread writes to several destinations. -/
def writeAll (terminal : Bool) : List (Output × Log.Record) → Option Buffer → List String
  | [], _ => []
  | (o, r) :: rest, kept =>
    let (line, kept) := write terminal o r kept
    line :: writeAll terminal rest kept

/-- Whether a terminal shows colors: it has a name other than `dumb`, and nobody objects. -/
def terminalShowsColors (name : Option String) (noColor : Bool) : Bool :=
  match name with
  | none => false
  | some name => name != "dumb" && !noColor

end Telemetry.Console
