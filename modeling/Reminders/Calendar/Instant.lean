import Reminders.Calendar.Date

/-!
Instants.

An instant is a date and a time of day in UTC, with nanoseconds. A leap second is the second that
follows a fifty-ninth: its nanoseconds run from one billion to two.

`Instant.dateIn?` is the calendar date that a clock shows at a fixed distance from UTC.
-/

namespace Reminders

/-- The number of seconds in a day. -/
def secondsPerDay : Nat := 86400

/-- A point in time, in UTC. -/
@[ext] structure Instant where
  date : Date
  /-- Seconds since midnight. -/
  second : Nat
  /-- Nanoseconds of the second. -/
  nano : Nat
  second_lt : second < secondsPerDay
  nano_lt : nano < 2000000000
  leap : 1000000000 ≤ nano → second % 60 = 59
deriving DecidableEq

namespace Instant

/-- Midnight at the start of a date. -/
def startOf (date : Date) : Instant :=
  ⟨date, 0, 0, by decide, by decide, by omega⟩

/-- The instant at which a clock that runs `offset` minutes ahead of UTC shows a date and a time of
day, if the calendar has it. -/
def ofLocal? (date : Date) (second nano : Nat) (offset : Int)
    (nano_lt : nano < 2000000000) (leap : 1000000000 ≤ nano → second % 60 = 59) : Option Instant :=
  let total : Int := second - offset * 60
  (date.addDays? (total / secondsPerDay)).map fun day =>
    { date := day
      second := (total % secondsPerDay).toNat
      nano := nano
      second_lt := by
        have h : (0 : Int) < (secondsPerDay : Int) := by decide
        have := Int.emod_lt_of_pos total h
        have := Int.emod_nonneg total (Int.ne_of_gt h)
        omega
      nano_lt := nano_lt
      leap := fun h => by
        have := leap h
        show ((second - offset * 60) % ((86400 : Nat) : Int)).toNat % 60 = 59
        omega }

/-- The date that a clock shows at `offset` seconds ahead of UTC, if the calendar has it. -/
def dateIn? (t : Instant) (offset : Int) : Option Date :=
  t.date.addDays? (((t.second : Int) + offset) / secondsPerDay)

/-! ### Seconds since 1970 -/

/-- Seconds since the start of 1970, leap seconds left out. -/
def unixSeconds (t : Instant) : Int :=
  (t.date.dayNumber - monthStart 1970 1) * secondsPerDay + t.second

/-- Milliseconds since the start of 1970. -/
def unixMilliseconds (t : Instant) : Int := t.unixSeconds * 1000 + t.nano / 1000000

/-- The instant a number of seconds after the start of 1970, if the calendar has it. -/
def ofUnixSeconds? (seconds : Int) : Option Instant :=
  (Date.ofDayNumber? (monthStart 1970 1 + seconds / secondsPerDay)).map fun date =>
    { date
      second := (seconds % secondsPerDay).toNat
      nano := 0
      second_lt := by
        have h : (0 : Int) < (secondsPerDay : Int) := by decide
        have := Int.emod_lt_of_pos seconds h
        have := Int.emod_nonneg seconds (Int.ne_of_gt h)
        omega
      nano_lt := by decide
      leap := by omega }

/-- The seconds lead back to themselves. -/
theorem unixSeconds_ofUnixSeconds? {seconds : Int} {t : Instant} (h : ofUnixSeconds? seconds = some t) :
    t.unixSeconds = seconds := by
  obtain ⟨date, hdate, rfl⟩ := Option.map_eq_some_iff.mp h
  have hday := Date.dayNumber_ofDayNumber? hdate
  unfold unixSeconds
  simp only [hday, secondsPerDay]
  omega

end Instant

end Reminders
