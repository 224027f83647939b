import Telemetry.Log.Sink

/-! Named handles that write records to a sink. -/
namespace Telemetry.Log

structure Logger (α : Type) where
  sink : Sink α
  scope : String
  minLevel : Level

namespace Logger

def ofSink {α : Type} (scope : String) (sink : Sink α) : Logger α := ⟨sink, scope, .debug⟩

/-- A logger whose records go nowhere. -/
def disabled {α : Type} : Logger α := ⟨.empty, "", .error⟩

def withScope {α : Type} (l : Logger α) (scope : String) : Logger α := { l with scope }

def withMinLevel {α : Type} (l : Logger α) (minLevel : Level) : Logger α := { l with minLevel }

def isEnabled {α : Type} (l : Logger α) (level : Level) : Bool := l.minLevel ≤ level

/-- The deliveries of a message: none below the logger's level. -/
def log {α : Type} (l : Logger α) (now : Timestamp) (level : Level) (message : String)
    (properties : List (String × Value)) : List (α × Record) :=
  if l.isEnabled level then l.sink.emit ⟨now, level, l.scope, message, properties⟩ else []

/-- Flushes the sink of the logger. -/
def flush {σ α : Type} (l : Logger α) (e : Surroundings σ α) (timeout : Duration) : StateM σ Bool :=
  l.sink.flush e timeout

def diagnostic {α : Type} (l : Logger α) : String :=
  "Logger \x7b scope: " ++ Text.quoted l.scope ++ ", min_level: " ++ Text.quoted l.minLevel.name ++
    " \x7d"

end Logger
end Telemetry.Log
