import Telemetry.Batch
import Telemetry.Provider.Notice

/-! The export worker of a metrics provider: how collected data becomes the batch of an
export attempt. With delta temporality a batch covers one window; with cumulative
temporality it shows the running state, which every window is merged into once. -/
namespace Telemetry.Provider

structure Settings where
  resource : Resource := .default
  temporality : Temporality := .delta
  interval : Duration := .ofSeconds 5
  /-- How long a single attempt may take. -/
  exportTimeout : Duration := .ofSeconds 30
  /-- The greatest number of series in a window, and in the running state. -/
  cardinalityLimit : Nat := 2000
  maxRetries : Nat := 2
  /-- Where notices go; without one they go nowhere. -/
  diagnostics : Option Diagnostics := none

namespace Settings

/-- What reaches the sink of the diagnostics. -/
def delivered (s : Settings) (n : Notice) : List Notice :=
  if s.diagnostics.any (·.takes n) then [n] else []

/-- Whether giving a notice panics. -/
def panicsOn (s : Settings) (n : Notice) : Bool := s.diagnostics.any (·.panicsOn n)

end Settings

/-- An attempt to export. -/
structure Attempt where
  /-- The data behind the batch, as it would be tried again. -/
  data : Aggregation
  window : Timestamp × Timestamp
  batch : Batch

structure Worker where
  /-- The end of the last window. -/
  lastCollect : Timestamp
  /-- The running state of cumulative exports. -/
  running : Aggregation

namespace Worker

def start (built : Timestamp) : Worker := ⟨built, .empty⟩

/-- The window of collected data. It is settled once, at the first attempt: it begins where
the last one ended. -/
def windowOf (now : Timestamp) (data : Aggregation) (w : Worker) :
    (Timestamp × Timestamp) × Worker :=
  match data.window with
  | some window => (window, w)
  | none => ((w.lastCollect, now), { w with lastCollect := now })

/-- Gets an attempt ready, and counts the series that found no room in the running state. Those of
the window are merged in the order in which they are met. -/
def prepare (s : Settings) (now : Timestamp) (order : List SeriesKey) (data : Aggregation)
    (w : Worker) : Attempt × Nat × Worker :=
  let (window, w) := w.windowOf now data
  match s.temporality with
  | .delta =>
    (⟨data.withWindow (some window), window, data.toBatch s.resource .delta (some window.1) window.2⟩,
      0, w)
  | .cumulative =>
    let (running, dropped) := (data.inOrder order).mergeInto w.running s.cardinalityLimit
    (⟨.empty, window, running.toBatch s.resource .cumulative none window.2⟩, dropped,
      { w with running })

end Worker

/-- What a shutdown and the worker tell each other. -/
structure Drain where
  isDraining : Bool := false
  /-- Whether exports are to end at once. -/
  isCancelled : Bool := false
  /-- Why the last attempt handled since the drain began failed, if it did. -/
  failure : Option ExportError := none
deriving DecidableEq, Repr, Inhabited

/-- Takes note of how an attempt ended, once the drain has begun. -/
def Drain.note (d : Drain) (failure : Option ExportError) : Drain :=
  if d.isDraining then { d with failure } else d

end Telemetry.Provider
