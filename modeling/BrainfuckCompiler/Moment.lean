import BrainfuckCompiler.Decimal

/-!
# Moments in time

A moment is a number of seconds since the start of 1970 in universal time,
with the offset of the local time from it. It is written as a date and a time
of day in the local time, followed by the offset.
-/
namespace BrainfuckCompiler

structure Moment where
  seconds : Nat
  /-- Minutes by which the local time is ahead. -/
  offset : Int := 0
  deriving DecidableEq, Repr

namespace Moment

structure Date where
  year : Nat
  month : Nat
  day : Nat
  deriving DecidableEq, Repr

/-- The date of a day counted from the first of March of the year zero, in the
calendar that repeats every 400 years. Years are taken to begin in March, so
that a leap day is the last day of its year. -/
def Date.ofDay (day : Nat) : Date :=
  let era := day / 146097
  let dayOfEra := day % 146097
  let yearOfEra := (dayOfEra - dayOfEra / 1460 + dayOfEra / 36524 - dayOfEra / 146096) / 365
  let dayOfYear := dayOfEra - (365 * yearOfEra + yearOfEra / 4 - yearOfEra / 100)
  let marchMonth := (5 * dayOfYear + 2) / 153
  let month := if marchMonth < 10 then marchMonth + 3 else marchMonth - 9
  let year := era * 400 + yearOfEra
  { year := if month ≤ 2 then year + 1 else year
    month := month
    day := dayOfYear - (153 * marchMonth + 2) / 5 + 1 }

/-- Days from the first of March of the year zero to the start of 1970. -/
def daysBefore1970 : Nat := 719468

/-- Seconds of local time since the start of 1970. -/
def localSeconds (moment : Moment) : Nat := (moment.seconds + moment.offset * 60).toNat

/-- Date, time of day and offset. -/
def text (moment : Moment) : Bytes :=
  let total := moment.localSeconds
  let date := Date.ofDay (total / 86400 + daysBefore1970)
  let time := total % 86400
  let offset := moment.offset.natAbs
  Decimal.padded 4 date.year ++ ascii "-" ++ Decimal.padded 2 date.month ++ ascii "-"
    ++ Decimal.padded 2 date.day ++ ascii " "
    ++ Decimal.padded 2 (time / 3600) ++ ascii ":" ++ Decimal.padded 2 (time / 60 % 60)
    ++ ascii ":" ++ Decimal.padded 2 (time % 60)
    ++ ascii (if moment.offset < 0 then "-" else "+")
    ++ Decimal.padded 2 (offset / 60) ++ Decimal.padded 2 (offset % 60)

end Moment

end BrainfuckCompiler
