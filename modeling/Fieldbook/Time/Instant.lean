import Fieldbook.Time.Date

/-!
# Instants

An `Instant` is a point in time, in seconds since the start of 1 January 1970 in universal time
and nanoseconds within the second.  A **leap second** is stored as the second before it with
nanoseconds from `10 ^ 9` on.  Texts and clocks know leap seconds after the last second of a minute
only (`Instant.ofParts?`), but an instant may hold one after any second.
-/

namespace Fieldbook

def nanosPerSecond : Nat := 1000000000

def nanosPerMilli : Nat := 1000000

structure Instant where
  seconds : Int
  nanos : Nat
  /-- The second itself and a leap second after it. -/
  nanos_lt : nanos < 2 * nanosPerSecond
deriving DecidableEq

namespace Instant

def ofSeconds (seconds : Int) : Instant := ⟨seconds, 0, by decide⟩

instance : Inhabited Instant := ⟨ofSeconds 0⟩

/-- The instant of seconds and nanoseconds, if there is one: only the last second of a minute is
followed by a leap second. -/
def ofParts? (seconds : Int) (nanos : Nat) : Option Instant :=
  if h : nanos < 2 * nanosPerSecond ∧ (nanos < nanosPerSecond ∨ seconds % 60 = 59) then
    some ⟨seconds, nanos, h.1⟩
  else none

def secondsPerDay : Int := 86400

def dayNumber (i : Instant) : Int := i.seconds / secondsPerDay

def secondOfDay (i : Instant) : Int := i.seconds % secondsPerDay

def date (i : Instant) : Date := .ofDays i.dayNumber

def isLeap (i : Instant) : Bool := nanosPerSecond ≤ i.nanos

def isStorable (i : Instant) : Bool := i.date.isStorable

def ofDate? (d : Date) : Option Instant :=
  if d.isValid && d.isStorable then some (ofSeconds (d.toDays * secondsPerDay)) else none

/-- **The instant that a clock shows** on a date, `offset` minutes ahead of universal time, if there
is one.  Second 60 is the leap second after second 59. -/
def ofClock? (d : Date) (hour minute second nanos : Nat) (offset : Int) : Option Instant :=
  if d.isValid && d.isStorable && hour ≤ 23 && minute ≤ 59 && second ≤ 60 then
    let (second, nanos) := if second = 60 then (59, nanos + nanosPerSecond) else (second, nanos)
    let seconds := d.toDays * secondsPerDay + (hour * 3600 + minute * 60 + second) - 60 * offset
    (ofParts? seconds nanos).filter isStorable
  else none

def ofMillis? (millis : Int) : Option Instant :=
  (ofParts? (millis / 1000) ((millis % 1000).toNat * nanosPerMilli)).filter isStorable

/-- **Elapsed time**, in nanoseconds, from `b` to `a`.  Days and times of day are subtracted apart;
a leap second that lies between the times of day counts when the earlier one is in it. -/
def elapsedNanos (a b : Instant) : Int :=
  let leap : Int :=
    if b.secondOfDay < a.secondOfDay ∧ b.isLeap then 1
    else if a.secondOfDay < b.secondOfDay ∧ a.isLeap then -1
    else 0
  ((a.dayNumber - b.dayNumber) * secondsPerDay + (a.secondOfDay - b.secondOfDay) + leap)
      * nanosPerSecond
    + ((a.nanos : Int) - b.nanos)

def elapsedMillis (a b : Instant) : Int := (elapsedNanos a b).tdiv nanosPerMilli

def millisPerDay : Nat := 86400000

def wholeDays (a b : Instant) : Nat := (elapsedMillis a b).natAbs / millisPerDay

end Instant

end Fieldbook
