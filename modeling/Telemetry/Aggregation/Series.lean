import Telemetry.Attributes
import Telemetry.Instrument
import Telemetry.Time.Timestamp

/-! Series: what the measurements of one instrument under one set of attributes add up to. -/
namespace Telemetry

/-- A measured value: an increment of a counter, or an observation of a histogram. -/
inductive MeasuredValue where
  | increment (n : UInt64)
  | observation (x : Binary64)
deriving DecidableEq, Repr

structure Measurement where
  instrument : Instrument
  value : MeasuredValue
  attributes : Attributes
  timestamp : Timestamp
deriving DecidableEq

/-- What tells series apart: the instrument's id and the attributes. -/
structure SeriesKey where
  instrument : Nat
  attributes : Attributes
deriving DecidableEq

def Measurement.key (m : Measurement) : SeriesKey := ⟨m.instrument.id, m.attributes⟩

/-- Addition that stops at the largest 64-bit count. -/
def saturatingAdd (a b : UInt64) : UInt64 := UInt64.ofNat (min (a.toNat + b.toNat) 0xFFFFFFFFFFFFFFFF)

@[simp] theorem toNat_saturatingAdd (a b : UInt64) :
    (saturatingAdd a b).toNat = min (a.toNat + b.toNat) 0xFFFFFFFFFFFFFFFF := by
  have fits : min (a.toNat + b.toNat) 0xFFFFFFFFFFFFFFFF < UInt64.size := by
    have : UInt64.size = 0x10000000000000000 := rfl
    omega
  exact UInt64.toNat_ofNat_of_lt' fits

/-- Where a sequence that starts with the elements that `p` accepts stops doing so, by
halving. The answer lies in `base .. base + size`, and `p` holds before `base`. -/
def partitionPoint (p : Nat → Bool) (base size : Nat) : Nat :=
  if size = 0 then base
  else if size = 1 then if p base then base + 1 else base
  else
    let half := size / 2
    partitionPoint p (if p (base + half) then base + half else base) (size - half)
termination_by size

/-- The observations of a histogram. Bucket `i` counts those above bound `i - 1` and up to
bound `i`; the last bucket is open. -/
structure HistogramState where
  bounds : List Binary64
  bucketCounts : List UInt64
  count : UInt64
  sum : Binary64
  min : Binary64
  max : Binary64
deriving DecidableEq, Repr

namespace HistogramState

def empty (bounds : List Binary64) : HistogramState :=
  ⟨bounds, List.replicate (bounds.length + 1) 0, 0, .zero, .infinity, .negativeInfinity⟩

/-- The bucket of a value: how many bounds are below it. -/
def bucketOf (bounds : List Binary64) (x : Binary64) : Nat :=
  partitionPoint (fun i => (bounds[i]?.map (·.lt x)).getD false) 0 bounds.length

def record (h : HistogramState) (x : Binary64) : HistogramState :=
  { h with
    bucketCounts := h.bucketCounts.modify (bucketOf h.bounds x) (· + 1)
    count := h.count + 1
    sum := h.sum.add x
    min := h.min.min x
    max := h.max.max x }

/-- Counts added place by place; places that only the first list has stay as they are. -/
def addCounts : List UInt64 → List UInt64 → List UInt64
  | a :: as, b :: bs => (a + b) :: addCounts as bs
  | as, _ => as

def merge (h other : HistogramState) : HistogramState :=
  { h with
    bucketCounts := addCounts h.bucketCounts other.bucketCounts
    count := h.count + other.count
    sum := h.sum.add other.sum
    min := h.min.min other.min
    max := h.max.max other.max }

end HistogramState

inductive SeriesData where
  | total (n : UInt64)
  | histogram (h : HistogramState)
deriving DecidableEq, Repr

namespace SeriesData

/-- The state before the first value, whose kind decides that of the series. -/
def initial (boundaries : Option (List Binary64)) : MeasuredValue → SeriesData
  | .increment _ => .total 0
  | .observation _ => .histogram (.empty (boundaries.getD []))

/-- A value folded in; a value of the other kind changes nothing. -/
def record : SeriesData → MeasuredValue → SeriesData
  | total n, .increment d => total (saturatingAdd n d)
  | histogram h, .observation x => histogram (h.record x)
  | data, _ => data

def merge : SeriesData → SeriesData → SeriesData
  | total n, total m => total (saturatingAdd n m)
  | histogram h, histogram other => histogram (h.merge other)
  | data, _ => data

end SeriesData

structure Series where
  instrument : Instrument
  attributes : Attributes
  firstSeen : Timestamp
  data : SeriesData
deriving DecidableEq

namespace Series

def key (s : Series) : SeriesKey := ⟨s.instrument.id, s.attributes⟩

/-- The series that a measurement starts, before its value is folded in. -/
def start (m : Measurement) : Series :=
  ⟨m.instrument, m.attributes, m.timestamp, .initial m.instrument.boundaries m.value⟩

def record (s : Series) (v : MeasuredValue) : Series := { s with data := s.data.record v }

def merge (s other : Series) : Series :=
  { s with firstSeen := s.firstSeen.earlier other.firstSeen, data := s.data.merge other.data }

@[simp] theorem key_start (m : Measurement) : (start m).key = m.key := rfl

@[simp] theorem key_record (s : Series) (v : MeasuredValue) : (s.record v).key = s.key := rfl

@[simp] theorem key_merge (s other : Series) : (s.merge other).key = s.key := rfl

end Series
end Telemetry
