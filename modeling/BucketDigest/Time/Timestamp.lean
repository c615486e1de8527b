import BucketDigest.Time.Date

/-!
# Points in time

A timestamp is a second of UTC and a number of nanoseconds. A leap second has no number of its
own: it is the second billion of nanoseconds in the last second of its minute.
-/
namespace BucketDigest.Time

/-- Nanoseconds in a second. -/
def nanosPerSecond : Nat := 1000000000

/-- A point in time: whole seconds since 1 January 1970 and nanoseconds into that second. -/
@[ext]
structure Timestamp where
  seconds : Int
  nanos : Nat
  nanos_lt : nanos < 2 * nanosPerSecond
  last_of_minute : nanosPerSecond ≤ nanos → seconds % 60 = 59
  deriving DecidableEq

namespace Timestamp

/-- The timestamp with the given parts, if they name one. -/
def of? (seconds : Int) (nanos : Nat) : Option Timestamp :=
  if h : nanos < 2 * nanosPerSecond ∧ (nanosPerSecond ≤ nanos → seconds % 60 = 59) then
    some ⟨seconds, nanos, h.1, h.2⟩
  else none

/-- Whether this lies in a leap second. -/
def isLeapSecond (t : Timestamp) : Bool :=
  nanosPerSecond ≤ t.nanos

/-- The number of the day, from 1 January 1970. -/
def dayNumber (t : Timestamp) : Int := t.seconds / 86400

/-- Seconds since midnight; a leap second counts with the one before it. -/
def secondOfDay (t : Timestamp) : Nat := (t.seconds % 86400).toNat

/-- The date in UTC. -/
def date (t : Timestamp) : Date := Date.ofDayNumber t.dayNumber

/-- The hour, from 0 to 23. -/
def hour (t : Timestamp) : Nat := t.secondOfDay / 3600

/-- The minute, from 0 to 59. -/
def minute (t : Timestamp) : Nat := t.secondOfDay / 60 % 60

/-- The second, from 0 to 59, or 60 in a leap second. -/
def second (t : Timestamp) : Nat :=
  t.secondOfDay % 60 + if t.isLeapSecond then 1 else 0

/-- Whole milliseconds into the second. -/
def milli (t : Timestamp) : Nat := t.nanos % nanosPerSecond / 1000000

end Timestamp

/-- A time of day as it is written: the second is 60 in a leap second. -/
structure Clock where
  hour : Nat
  minute : Nat
  second : Nat
  nanos : Nat
  hour_lt : hour < 24
  minute_lt : minute < 60
  second_le : second ≤ 60
  nanos_lt : nanos < nanosPerSecond

/-- The time of day with the given parts, if there is one. -/
def Clock.of? (hour minute second nanos : Nat) : Option Clock :=
  if h : (hour < 24 ∧ minute < 60) ∧ second ≤ 60 ∧ nanos < nanosPerSecond then
    some ⟨hour, minute, second, nanos, h.1.1, h.1.2, h.2.1, h.2.2⟩
  else none

/-- The point in time when clocks `offset` minutes ahead of UTC show a date and a time of day. -/
def Timestamp.ofLocal (date : Date) (clock : Clock) (offset : Int) : Timestamp where
  seconds := date.dayNumber * 86400 +
    (clock.hour * 3600 + clock.minute * 60 + min clock.second 59 : Nat) - offset * 60
  nanos := clock.nanos + if clock.second = 60 then nanosPerSecond else 0
  nanos_lt := by
    have := clock.nanos_lt
    split <;> omega
  last_of_minute := by
    have := clock.nanos_lt
    intro h
    split at h <;> omega

end BucketDigest.Time
