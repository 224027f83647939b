import Telemetry.CommandLine.Interface

/-! How a command line is read: from left to right, with the value of a parameter behind an
equals sign or in the next argument. What it leaves open, the environment and the defaults
decide. -/
namespace Telemetry.CommandLine

/-- What ends the reading early. -/
inductive Stop where
  | fault (f : Fault)
  | help
  | version
deriving DecidableEq, Repr

/-- What has been read so far. -/
structure Reading where
  /-- Parameters with their values, in order. -/
  given : List (Parameter × String) := []
  /-- A parameter whose value is still to be checked, or to come. -/
  pending : Option (Parameter × Option String) := none
  /-- Whether two dashes on their own have been read. -/
  isTrailing : Bool := false

namespace Reading

def isGiven (r : Reading) (name : String) : Bool := r.given.any (·.1.name == name)

/-- Takes a value in, once. -/
def accept (r : Reading) (p : Parameter) (value : String) : Except Stop Reading :=
  if r.isGiven p.name then .error (.fault (.repeated p.usage))
  else
    match p.fault? value with
    | some cause => .error (.fault (.invalidValue value p.usage cause))
    | none => .ok { r with given := r.given ++ [(p, value)] }

/-- Takes in what is pending. -/
def resolve (r : Reading) : Except Stop Reading :=
  match r.pending with
  | none => .ok r
  | some (p, none) => .error (.fault (.missingValue p.usage))
  | some (p, some value) => { r with pending := none }.accept p value

/-- The parameters in use. -/
def used (r : Reading) : List Usage := r.given.map (·.1.usage)

/-- The parameters in use, with a pending one that has its value. A parameter that is given for
the second time is no longer among them. -/
def usedWithPending (r : Reading) : List Usage :=
  match r.pending with
  | some (p, some _) =>
    if r.isGiven p.name then r.used.filter (· != p.usage) else r.used ++ [p.usage]
  | _ => r.used

/-- The parameters in use and some more, each once. -/
def withUsed (used more : List Usage) : List Usage := used ++ more.filter (!used.contains ·)

def unexpected (argument : String) : Stop := .fault (.unexpectedArgument argument none [])

/-- A name nobody knows. The one that was probably meant counts as in use. -/
def unknown (i : Interface) (r : Reading) (name : String) : Stop :=
  let names := i.parameters.map (·.name) ++ Interface.common.map (·.1)
  let similar := Similarity.closest name names
  let meant := (similar.map fun n => ((i.find? n).map (·.usage)).getD ⟨"--" ++ n, none⟩).toList
  .fault (.unexpectedArgument ("--" ++ name) similar (withUsed r.usedWithPending meant))

/-- An argument that begins with two dashes: a name, perhaps with a value behind it. -/
def readLong (i : Interface) (r : Reading) (name : String) (value : Option String) :
    Except Stop Reading :=
  let surplus (parameter : Usage) (value : String) : Except Stop Reading :=
    .error (.fault (.unexpectedValue value parameter !r.given.isEmpty))
  match i.find? name, value with
  | some p, some value =>
    if p.takesValue then do (← r.resolve).accept p value else surplus p.usage value
  | some p, none => do
    let r ← r.resolve
    if p.takesValue then pure { r with pending := some (p, none) } else r.accept p "true"
  | none, _ =>
    if name != "help" && name != "version" then .error (r.unknown i name)
    else
      match value with
      | some value => surplus ⟨"--" ++ name, none⟩ value
      | none => do
        let _ ← r.resolve
        .error (if name == "help" then .help else .version)

/-- Letters behind a single dash, of which the first one counts. -/
def readShort (r : Reading) (letter : Char) : Except Stop Reading :=
  match Interface.common.find? (·.2.1 == letter) with
  | some (name, _, _) => do
    let _ ← r.resolve
    .error (if name == "help" then .help else .version)
  | none => .error (unexpected (String.ofList ['-', letter]))

/-- Any other argument is the value that a parameter waits for. -/
def readValue (r : Reading) (argument : String) : Except Stop Reading :=
  match r.pending with
  | some (p, none) => .ok { r with pending := some (p, some argument) }
  | _ => .error (unexpected argument)

/-- A name and the text behind the first equals sign. -/
def splitName (l : List Char) : String × Option String :=
  let (name, rest) := l.span (· != '=')
  (String.ofList name, match rest with
    | [] => none
    | _ :: value => some (String.ofList value))

def readArgument (i : Interface) (r : Reading) (argument : String) : Except Stop Reading :=
  if r.isTrailing then .error (unexpected argument)
  else
    match argument.toList with
    | ['-', '-'] => .ok { r with isTrailing := true }
    | '-' :: '-' :: rest =>
      let (name, value) := splitName rest
      r.readLong i name value
    | '-' :: letter :: _ => r.readShort letter
    | _ => r.readValue argument

/-- Takes in the environment's value of a parameter that the command line leaves open. -/
def readVariable (e : Environment) (r : Reading) (p : Parameter) : Except Stop Reading :=
  match p.variableName?.bind e.value? with
  | none => .ok r
  | some value =>
    if r.isGiven p.name then .ok r
    else
      match value.text?, p.takesValue with
      | some text, true => r.accept p text
      | none, true => .error (.fault .notText)
      | _, false =>
        if Fault.booleans.contains value.shown then r.accept p value.shown
        else .error (.fault (.notBoolean value.shown p.usage))

def readDefault (r : Reading) (p : Parameter) : Except Stop Reading :=
  match p.defaultValue? with
  | some value => if r.isGiven p.name then .ok r else r.accept p value
  | none => .ok r

def get? (r : Reading) (name : String) : Option String :=
  (r.given.find? (·.1.name == name)).map (·.2)

/-- Whether a switch is on. -/
def isOn (r : Reading) (name : String) : Bool := r.get? name == some "true"

end Reading

/-- Reads a command line to the end. -/
def Interface.read (i : Interface) (e : Environment) (arguments : List String) :
    Except Stop Reading := do
  let r ← arguments.foldlM (Reading.readArgument i) {}
  let r ← r.resolve
  let r ← i.parameters.foldlM (Reading.readVariable e) { r with pending := none }
  i.parameters.foldlM Reading.readDefault r

end Telemetry.CommandLine
