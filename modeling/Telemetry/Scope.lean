import Telemetry.Sorted
import Telemetry.Text.Quoted

/-! Instrumentation scopes: the part of a program that telemetry comes from. -/
namespace Telemetry

structure Scope where
  name : String
  version : Option String
deriving DecidableEq, Repr, Inhabited

namespace Scope

def ofName (name : String) : Scope := ⟨name, none⟩

def text (s : Scope) : String :=
  match s.version with
  | none => s.name
  | some version => s.name ++ "@" ++ version

def orderVersion : Option String → Option String → Ordering
  | none, none => .eq
  | none, some _ => .lt
  | some _, none => .gt
  | some a, some b => compare a b

/-- By name, then no version before any version, then by version. -/
def order (a b : Scope) : Ordering := (compare a.name b.name).then (orderVersion a.version b.version)

def diagnostic (s : Scope) : String :=
  let version := match s.version with
    | none => "None"
    | some version => "Some(" ++ Text.quoted version ++ ")"
  "Scope \x7b name: " ++ Text.quoted s.name ++ ", version: " ++ version ++ " \x7d"

/-- Scopes in their order, each of them once. -/
def sortDistinct (l : List Scope) : List Scope := Sorted.distinct order l

end Scope
end Telemetry
