import Mathlib.Algebra.Order.Ring.Int

/-!
# miles: dates as timestamps

`Timestamp(date:)` splits a date into the whole seconds since 1970 and the
nanoseconds, cut off, that follow them.  The client keeps microseconds of a
timestamp that it is given to write, and `dateValue()` puts the two numbers
together again.  Both conversions compute with `Double` and are parameters;
dates before the year 1 or after 9999, which raise, are left out.
-/

namespace AdvMad.Miles

structure Timestamp where
  seconds : Int
  nanoseconds : Nat
  deriving DecidableEq, Repr

/-- `TimestampInternal::Truncate` -/
def Timestamp.truncate (timestamp : Timestamp) : Timestamp :=
  { timestamp with nanoseconds := timestamp.nanoseconds / 1000 * 1000 }

structure DateConversion (Date : Type) where
  timestampWithDate : Date → Timestamp
  dateValue : Timestamp → Date

def DateConversion.stored {Date : Type} (conversion : DateConversion Date) (date : Date) : Date :=
  conversion.dateValue (conversion.timestampWithDate date).truncate

/-- Dates counted in whole nanoseconds, where the arithmetic is exact. -/
def nanosecondDates : DateConversion Int where
  timestampWithDate date := ⟨date / 1000000000, (date % 1000000000).toNat⟩
  dateValue timestamp := timestamp.seconds * 1000000000 + timestamp.nanoseconds

theorem nanosecondDates_stored (date : Int) :
    nanosecondDates.stored date = date - date % 1000 := by
  simp only [DateConversion.stored, nanosecondDates, Timestamp.truncate]
  omega

end AdvMad.Miles
