import Reminders.Calendar.DateText
import Reminders.Calendar.Instant

/-!
The text of an instant.

An instant is written as a date, `T`, hours, minutes and seconds, a fraction of three, six or nine
digits unless it is zero, and the zone. Reading takes any distance from UTC; `parse` is as lenient
as the reading of dates, `parseStrict` wants every number at its full width and no blanks.
-/

namespace Reminders

namespace DateText

/-- Takes one character between a date and a time. -/
def dateTimeMark : Reader Unit := fun
  | [] => .error .short
  | c :: rest => if c = 't' ∨ c = 'T' ∨ c = ' ' then .ok ((), rest) else .error .invalid

/-- Takes a fraction of a second, as nanoseconds: nine digits count and further ones are skipped. -/
def fraction : Reader Nat := fun
  | '.' :: rest => do
    let (n, after) ← number (some 9) rest
    let taken := rest.length - after.length
    .ok (n * Nat.pow 10 (9 - taken), after.dropWhile Numeral.isDigit)
  | cs => .ok (0, cs)

/-- A time of day: seconds since midnight, and nanoseconds that pass one billion in a leap second. -/
structure TimeOfDay where
  second : Nat
  nano : Nat

/-- The time of day on a clock; second 60 is the leap second. -/
def TimeOfDay.ofClock (hour minute second nano : Nat) : TimeOfDay :=
  if second = 60 then ⟨hour * 3600 + minute * 60 + 59, nano + 1000000000⟩
  else ⟨hour * 3600 + minute * 60 + second, nano⟩

/-- Takes hours, minutes and seconds, with blanks around the colons. -/
def timeOfDay : Reader TimeOfDay := do
  let hour ← bounded 2 0 23
  skipBlanks
  literal ':'
  let minute ← bounded 2 0 59
  skipBlanks
  literal ':'
  let second ← bounded 2 0 60
  let nano ← fraction
  return .ofClock hour minute second nano

/-- Takes two digits of a zone. -/
def zoneDigits : Reader (Nat × Nat) := fun
  | [] => .error .short
  | [c] => if c.utf8Size < 2 then .error .short else .error .invalid
  | a :: b :: rest =>
    if Numeral.isDigit a && Numeral.isDigit b then
      .ok ((Numeral.digitValue a, Numeral.digitValue b), rest)
    else .error .invalid

/-- Takes the sign of a zone: whether the clock runs behind UTC. -/
def zoneSign : Reader Bool := fun
  | [] => .error .short
  | c :: rest =>
    if c = '+' then .ok (false, rest)
    else if c = '-' ∨ c = '\u2212' then .ok (true, rest)
    else .error .invalid

/-- Takes a distance from UTC in minutes: a sign, two digits of hours, what `separator` takes, and
two digits of minutes. -/
def zoneDistance (separator : Reader Unit) : Reader Int := do
  let behind ← zoneSign
  let (h1, h2) ← zoneDigits
  separator
  let (m1, m2) ← zoneDigits
  if 6 ≤ m1 then throw .range
  let minutes : Int := (h1 * 10 + h2) * 60 + (m1 * 10 + m2)
  return if behind then -minutes else minutes

/-- Takes a zone: `Z` or a distance. -/
def zone (separator : Reader Unit) : Reader Int := fun
  | 'z' :: rest => .ok (0, rest)
  | 'Z' :: rest => .ok (0, rest)
  | cs => zoneDistance separator cs

/-- Takes a zone that may also be `UTC`. -/
def namedZone (separator : Reader Unit) : Reader Int := fun cs =>
  if (cs.take 3).map Char.toUpper = ['U', 'T', 'C'] then .ok (0, cs.drop 3) else zone separator cs

/-- Skips colons and blanks. -/
def skipColons : Reader Unit := modify (·.dropWhile fun c => c == ':' || isBlank c)

/-- A date, a time of day and a distance from UTC in minutes, as they were read. -/
structure Stamp where
  year : Int
  month : Nat
  day : Nat
  time : TimeOfDay
  offset : Int

/-- Takes a date, a time of day and a zone, leniently. -/
def stamp : Reader Stamp := do
  let (y, m, d) ← yearMonthDay
  dateTimeMark
  let time ← timeOfDay
  skipBlanks
  let offset ← namedZone skipColons
  skipBlanks
  return ⟨y, m, d, time, offset⟩

/-- Takes exactly `width` digits. -/
def exactly (width low high : Nat) : Reader Nat := fun cs =>
  let taken := cs.take width
  if taken.length = width ∧ taken.all Numeral.isDigit then
    if low ≤ Numeral.value taken ∧ Numeral.value taken ≤ high then
      .ok (Numeral.value taken, cs.drop width)
    else .error .range
  else .error .invalid

/-- Takes a date, a time of day and a zone, each number at its full width and without blanks. -/
def strictStamp : Reader Stamp := do
  let y ← exactly 4 0 9999
  literal '-'
  let m ← exactly 2 1 12
  literal '-'
  let d ← exactly 2 1 31
  dateTimeMark
  let hour ← exactly 2 0 23
  literal ':'
  let minute ← exactly 2 0 59
  literal ':'
  let second ← exactly 2 0 60
  let nano ← fraction
  let offset ← zone (literal ':')
  return ⟨y, m, d, .ofClock hour minute second nano, offset⟩

/-- The instant of a stamp. -/
def Stamp.instant (s : Stamp) : Except DateTextError Instant :=
  match Date.ofYmd? s.year s.month s.day with
  | none => .error .range
  | some date =>
    if s.offset ≤ -1440 ∨ 1440 ≤ s.offset then .error .range
    else if h : s.time.nano < 2000000000 ∧ (1000000000 ≤ s.time.nano → s.time.second % 60 = 59) then
      match Instant.ofLocal? date s.time.second s.time.nano s.offset h.1 h.2 with
      | some t => .ok t
      | none => .error .impossible
    else .error .range

end DateText

namespace Instant

/-- Reads an instant, leniently. -/
def parse (s : String) : Except DateTextError Instant := do (← DateText.readAll DateText.stamp s).instant

/-- Reads an instant whose numbers have their full width. -/
def parseStrict (s : String) : Except DateTextError Instant := do
  (← DateText.readAll DateText.strictStamp s).instant

/-- The text of a fraction of a second: nothing, or a point and three, six or nine digits. -/
def fractionText (nano : Nat) : List Char :=
  if nano = 0 then []
  else if nano % 1000000 = 0 then '.' :: Numeral.padded 3 (nano / 1000000)
  else if nano % 1000 = 0 then '.' :: Numeral.padded 6 (nano / 1000)
  else '.' :: Numeral.padded 9 nano

/-- The date, the time of day and the fraction of an instant. -/
def stampText (t : Instant) : List Char :=
  let second := t.second % 60 + t.nano / 1000000000
  t.date.toChars ++ 'T' :: Numeral.padded 2 (t.second / 3600) ++
    ':' :: Numeral.padded 2 (t.second / 60 % 60) ++ ':' :: Numeral.padded 2 second ++
    fractionText (t.nano % 1000000000)

/-- The text of an instant, with `Z` for the zone. -/
def toText (t : Instant) : String := String.ofList (t.stampText ++ ['Z'])

/-- The text of an instant, with the distance zero for the zone. -/
def toOffsetText (t : Instant) : String := String.ofList (t.stampText ++ "+00:00".toList)

end Instant

end Reminders
