import Reminders.Calendar.Date
import Reminders.Text.Blank
import Reminders.Text.Numeral
import Reminders.Text.Width

/-!
The text of a date.

A date is written `YYYY-MM-DD`; a year outside 0 to 9999 carries its sign, and at least four digits.
Reading is lenient: blanks may stand around the three numbers and the two dashes, the numbers may
be shorter, and a year of any length may follow a sign.
-/

namespace Reminders

/-- Why a text is not a date or a time. -/
inductive DateTextError where
  /-- The text ends too early. -/
  | short
  /-- A character stands where it must not. -/
  | invalid
  /-- A number is too large, or there is no such day or time. -/
  | range
  /-- Something follows. -/
  | trailing
  /-- The time lies outside the calendar. -/
  | impossible
deriving DecidableEq

/-- The wording of an error. -/
def DateTextError.message : DateTextError → String
  | .short => "premature end of input"
  | .invalid => "input contains invalid characters"
  | .range => "input is out of range"
  | .trailing => "trailing input"
  | .impossible => "no possible date and time matching format"

namespace DateText

/-- A reader takes characters from the front of a text. -/
abbrev Reader := StateT (List Char) (Except DateTextError)

/-- Skips blanks. -/
def skipBlanks : Reader Unit := modify (·.dropWhile isBlank)

/-- Takes one given character. -/
def literal (c : Char) : Reader Unit := fun
  | [] => .error .short
  | d :: rest => if d = c then .ok ((), rest) else .error .invalid

/-- Takes a number: at least one digit, and no more than `width` if there is a width. A number
beyond 64 bits with a sign is out of range. -/
def number (width : Option Nat) : Reader Nat := fun cs =>
  let window := match width with
    | some w => cs.take w
    | none => cs
  let taken := window.takeWhile Numeral.isDigit
  if cs = [] then .error .short
  else if taken = [] then .error .invalid
  else if Width.maxInt64 < Numeral.value taken then .error .range
  else .ok (Numeral.value taken, cs.drop taken.length)

/-- Takes a number that must lie between two bounds, after blanks. -/
def bounded (width low high : Nat) : Reader Nat := do
  skipBlanks
  let n ← number (some width)
  if low ≤ n ∧ n ≤ high then pure n else throw .range

/-- Takes a number with an optional sign: without one it has at most four digits. -/
def signedNumber : Reader Int := fun
  | '-' :: rest => (do return -(Int.ofNat (← number none)) : Reader Int) rest
  | '+' :: rest => (do return Int.ofNat (← number none) : Reader Int) rest
  | cs => (do return Int.ofNat (← number (some 4)) : Reader Int) cs

/-- Takes a year, which must be a 32-bit number. -/
def year : Reader Int := do
  skipBlanks
  let n ← signedNumber
  if Width.IsInt32 n then pure n else throw .range

/-- Takes a year, a month and a day with dashes between them. -/
def yearMonthDay : Reader (Int × Nat × Nat) := do
  let y ← year
  skipBlanks
  literal '-'
  let m ← bounded 2 1 12
  skipBlanks
  literal '-'
  let d ← bounded 2 1 31
  return (y, m, d)

/-- Nothing may be left. -/
def done : Reader Unit := fun
  | [] => .ok ((), [])
  | _ :: _ => .error .trailing

/-- Takes the whole of a text. -/
def readAll (reader : Reader α) (s : String) : Except DateTextError α :=
  (do let a ← reader; done; return a : Reader α).run' s.toList

end DateText

namespace Date

/-- The text of a year. -/
def yearText (year : Int) : List Char :=
  if 0 ≤ year ∧ year ≤ 9999 then Numeral.padded 4 year.natAbs
  else (if year < 0 then '-' else '+') :: Numeral.padded 4 year.natAbs

/-- The text of a date. -/
def toChars (d : Date) : List Char :=
  yearText d.year ++ '-' :: Numeral.padded 2 d.month ++ '-' :: Numeral.padded 2 d.day

/-- The text of a date. -/
def toText (d : Date) : String := String.ofList d.toChars

/-- Reads a date. -/
def parse (s : String) : Except DateTextError Date := do
  let (y, m, d) ← DateText.readAll (do let ymd ← DateText.yearMonthDay; DateText.skipBlanks; return ymd) s
  match Date.ofYmd? y m d with
  | some date => .ok date
  | none => .error .range

end Date

end Reminders
