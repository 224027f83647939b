import Telemetry.CommandLine.Interface

/-! The help text of a program: every parameter on a line of its own, and below it what it is
for, its environment variable with the present value, and its default. -/
namespace Telemetry.CommandLine

/-- What is known about a parameter, in one text. -/
def Parameter.notes (e : Environment) (p : Parameter) : String :=
  let present (v : String) : String := ((e.value? v).map (·.shown)).getD ""
  " ".intercalate ([p.help] ++
    (p.variableName?.map fun v => "[env: " ++ v ++ "=" ++ present v ++ "]").toList ++
    (p.defaultValue?.map fun d => "[default: " ++ d ++ "]").toList)

/-- A head and its notes below it. A line ends only where the notes themselves have an end of
line. -/
def entry (head notes : String) : List String :=
  ("  " ++ head) :: (notes.splitOn "\n").map ("          " ++ ·)

/-- The help text, with its colors. -/
def Interface.help (i : Interface) (e : Environment) : String :=
  let common (name : String) (letter : Char) : String :=
    Style.literal.mark (String.ofList ['-', letter]) ++ ", " ++ Style.literal.mark ("--" ++ name)
  let lines := [i.about, "", i.usage [], "", Style.heading.mark "Options:"] ++
    i.parameters.flatMap (fun p => entry ("    " ++ p.usage.marked) (p.notes e)) ++
    Interface.common.flatMap fun (name, letter, help) => entry (common name letter) help
  String.join (lines.map (· ++ "\n"))

end Telemetry.CommandLine
