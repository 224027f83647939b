import Telemetry.Decimal.Digits
import Telemetry.Time.Timestamp

/-! Dates and times of day, all in universal time. The place a program runs at has an offset from it
that only its system knows. Where a system does not tell, the time of day on a console is the
universal one; that is the only case here. -/
namespace Telemetry

/-- A day of the Gregorian calendar. -/
structure Date where
  year : Nat
  month : Nat
  day : Nat
deriving DecidableEq, Repr

namespace Date

/-- The date of a day counted from the start of 1970. Years are counted from March here, so
that a leap day is the last of its year, in eras of 400 years with 146097 days each. -/
def ofDay (n : Nat) : Date :=
  let days := n + 719468
  let era := days / 146097
  let dayOfEra := days % 146097
  let yearOfEra := (dayOfEra - dayOfEra / 1460 + dayOfEra / 36524 - dayOfEra / 146096) / 365
  let dayOfYear := dayOfEra - (365 * yearOfEra + yearOfEra / 4 - yearOfEra / 100)
  let monthFromMarch := (5 * dayOfYear + 2) / 153
  let day := dayOfYear - (153 * monthFromMarch + 2) / 5 + 1
  let month := if monthFromMarch < 10 then monthFromMarch + 3 else monthFromMarch - 9
  let year := yearOfEra + 400 * era + if month ≤ 2 then 1 else 0
  ⟨year, month, day⟩

end Date

namespace Timestamp

def nanosPerDay : Nat := 86400 * Duration.nanosPerSecond

/-- The nanoseconds since midnight. -/
def nanoOfDay (t : Timestamp) : Nat := t.unixNanos.toNat % nanosPerDay

def date (t : Timestamp) : Date := .ofDay (t.unixNanos.toNat / nanosPerDay)

/-- Hours, minutes and seconds with colons. -/
def clock (t : Timestamp) : List Char :=
  let seconds := t.nanoOfDay / Duration.nanosPerSecond
  Decimal.padded 2 (seconds / 3600) ++ ':' :: Decimal.padded 2 (seconds / 60 % 60) ++
    ':' :: Decimal.padded 2 (seconds % 60)

/-- The time of day to the millisecond, where no offset is known. -/
def timeOfDay (t : Timestamp) : String :=
  String.ofList (t.clock ++ '.' ::
    Decimal.padded 3 (t.nanoOfDay % Duration.nanosPerSecond / Duration.nanosPerMilli))

/-- Date and time in the form of RFC 3339, with a fraction of a second where there is one. -/
def rfc3339 (t : Timestamp) : String :=
  String.ofList (Decimal.padded 4 t.date.year ++ '-' :: Decimal.padded 2 t.date.month ++
    '-' :: Decimal.padded 2 t.date.day ++ 'T' :: t.clock ++
    Decimal.fraction 9 (t.nanoOfDay % Duration.nanosPerSecond) ++ ['Z'])

end Timestamp
end Telemetry
