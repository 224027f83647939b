import Telemetry.CommandLine.Similarity
import Telemetry.CommandLine.Style

/-! What a program takes on its command line: switches, and parameters with a value, which
environment variables may set as well. -/
namespace Telemetry.CommandLine

/-- A parameter as a usage shows it, with its dashes and the name of its value. -/
structure Usage where
  name : String
  value? : Option String := none
deriving DecidableEq, Repr

namespace Usage

def valuePart (u : Usage) : String := (u.value?.map fun v => " <" ++ v ++ ">").getD ""

def text (u : Usage) : String := u.name ++ u.valuePart

def marked (u : Usage) : String := Style.literal.mark u.name ++ u.valuePart

end Usage

structure Parameter where
  name : String
  /-- Whether a value comes with it; otherwise it is a switch. -/
  takesValue : Bool := true
  help : String
  /-- The environment variable that stands in for it. -/
  variableName? : Option String := none
  defaultValue? : Option String := none
  /-- Why a value cannot be used, where it cannot. -/
  fault? : String → Option String := fun _ => none

namespace Parameter

/-- The name of the value in usage texts. -/
def valueName (p : Parameter) : String :=
  String.ofList (p.name.toList.map fun c => if c = '-' then '_' else c.toUpper)

def usage (p : Parameter) : Usage :=
  ⟨"--" ++ p.name, if p.takesValue then some p.valueName else none⟩

end Parameter

structure Interface where
  program : String
  version : String
  about : String
  parameters : List Parameter

namespace Interface

def find? (i : Interface) (name : String) : Option Parameter := i.parameters.find? (·.name == name)

/-- The names that every program takes besides its own, with their letters and help. -/
def common : List (String × Char × String) := [("help", 'h', "Print help"), ("version", 'V', "Print version")]

/-- The line that shows what can stand behind the name of the program. -/
def usageLine (i : Interface) (parts : List String) : String :=
  Style.heading.mark "Usage:" ++ " " ++ Style.literal.mark i.program ++ " " ++ " ".intercalate parts

/-- The usage of a program, of which some parameters are in use. -/
def usage (i : Interface) (used : List Usage) : String :=
  i.usageLine (if used.isEmpty then ["[OPTIONS]"] else used.map (·.marked))

/-- The program's own parameters as a choice between them. -/
def choice (i : Interface) : String := "<" ++ "|".intercalate (i.parameters.map (·.usage.text)) ++ ">"

/-- The usage around one parameter. Behind others it is the choice of all the program's own,
which names that parameter already, unless every program takes it. -/
def usageOf (i : Interface) (parameter : Usage) (behindOthers : Bool) : String :=
  let choice := if behindOthers then [i.choice] else []
  let isNamed := behindOthers && i.parameters.any (·.usage == parameter)
  i.usageLine (if isNamed then choice else parameter.marked :: choice)

end Interface

/-- Why a command line cannot be read. -/
inductive Fault where
  | invalidValue (value : String) (parameter : Usage) (cause : String)
  /-- The value of a switch is neither of the two it can have. -/
  | notBoolean (value : String) (parameter : Usage)
  /-- A value is no text at all. -/
  | notText
  | missingValue (parameter : Usage)
  /-- A switch has a value. Other parameters may have been given before it. -/
  | unexpectedValue (value : String) (parameter : Usage) (behindOthers : Bool)
  | unexpectedArgument (argument : String) (similar : Option String) (used : List Usage)
  | repeated (parameter : Usage)
deriving DecidableEq, Repr

namespace Fault

def booleans : List String := ["true", "false"]

def tip (what word : String) : String :=
  "  " ++ Style.valid.mark "tip:" ++ " a similar " ++ what ++ " exists: '" ++ Style.valid.mark word ++ "'"

def missing (parameter : Usage) : String :=
  "a value is required for '" ++ Style.invalid.mark parameter.text ++ "' but none was supplied"

def valueFor (value : String) (parameter : Usage) : String :=
  "value '" ++ Style.invalid.mark value ++ "' for '" ++ Style.literal.mark parameter.text ++ "'"

/-- The fault itself and what could help with it. -/
def description (i : Interface) : Fault → String
  | invalidValue value parameter cause => "invalid " ++ valueFor value parameter ++ ": " ++ cause
  | notBoolean value parameter =>
    (if value.isEmpty then missing parameter else "invalid " ++ valueFor value parameter) ++
      "\n  [possible values: " ++ ", ".intercalate (booleans.map Style.valid.mark) ++ "]" ++
      match Similarity.closest value booleans with
      | some word => "\n\n" ++ tip "value" word
      | none => ""
  | notText => "invalid UTF-8 was detected in one or more arguments\n\n" ++ i.usage []
  | missingValue parameter => missing parameter
  | unexpectedValue value parameter behindOthers =>
    "unexpected " ++ valueFor value parameter ++ " found; no more were expected\n\n" ++
      i.usageOf parameter behindOthers
  | unexpectedArgument argument similar used =>
    "unexpected argument '" ++ Style.invalid.mark argument ++ "' found\n\n" ++
      (match similar with
        | some name => tip "argument" ("--" ++ name) ++ "\n\n"
        | none => "") ++ i.usage used
  | repeated parameter =>
    "the argument '" ++ Style.invalid.mark parameter.text ++ "' cannot be used multiple times\n\n" ++
      i.usage []

/-- The text for the person at the terminal, with its colors. -/
def message (i : Interface) (f : Fault) : String :=
  Style.failure.mark "error:" ++ " " ++ f.description i ++ "\n\nFor more information, try '" ++
    Style.literal.mark "--help" ++ "'.\n"

end Fault
end Telemetry.CommandLine
