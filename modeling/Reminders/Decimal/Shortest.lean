import Reminders.Decimal.Binary
import Reminders.Text.Numeral

/-!
Shortest decimals.

The shortest decimal of a positive double is the one with the fewest digits among all that lie
nearer to it than to any other double, and the nearest of those. It is found by trying one digit,
two digits and so on: on each decimal grid only the two neighbours of the value can be meant.
-/

namespace Reminders

/-- The decimal `digits * 10 ^ exponent`. -/
structure Decimal where
  digits : Nat
  exponent : Int
deriving DecidableEq

namespace Decimal

/-- A decimal without zeros at its end. -/
def normalize (d : Decimal) : Decimal :=
  if h : d.digits = 0 then d
  else if d.digits % 10 = 0 then normalize ⟨d.digits / 10, d.exponent + 1⟩
  else d
termination_by d.digits
decreasing_by exact Nat.div_lt_self (Nat.pos_of_ne_zero h) (by decide)

/-- The exponent of the leading digit of a positive ratio. -/
def leadingExponent (r : Ratio) : Int :=
  if r.den ≤ r.num then ((Numeral.digits (r.num / r.den)).length : Int) - 1
  else
    let places := (Numeral.digits (r.den / r.num)).length
    if r.den ≤ r.num * Nat.pow 10 (places - 1) then -((places : Int) - 1) else -(places : Int)

/-- The numbers that read as one double: those between two bounds, given in quarters of the last
place of its mantissa, and the bounds themselves when `closed`. -/
structure Neighbourhood where
  value : Nat
  low : Nat
  high : Nat
  exponent : Int
  closed : Bool

/-- The numbers nearest to the double `mantissa * 2 ^ exponent`. Below a power of two the doubles
lie twice as dense. -/
def Neighbourhood.of (mantissa : Nat) (exponent : Int) : Neighbourhood where
  value := 4 * mantissa
  low := if mantissa = Binary.hiddenBit ∧ -1074 < exponent then 4 * mantissa - 1 else 4 * mantissa - 2
  high := 4 * mantissa + 2
  exponent := exponent - 2
  closed := mantissa % 2 = 0

/-- The grid point `n * 10 ^ place` lies in the neighbourhood. -/
def Neighbourhood.holds (b : Neighbourhood) (n : Nat) (place : Int) : Bool :=
  let low := (Ratio.shift2 b.low b.exponent).shift10 (-place)
  let high := (Ratio.shift2 b.high b.exponent).shift10 (-place)
  if b.closed then low.num ≤ n * low.den && n * high.den ≤ high.num
  else low.num < n * low.den && n * high.den < high.num

/-- The point of a grid that stands for the double, if one does: the nearer of the two neighbours of
its value, and of two equally near the even one. -/
def Neighbourhood.pick? (b : Neighbourhood) (place : Int) : Option Decimal :=
  let value := (Ratio.shift2 b.value b.exponent).shift10 (-place)
  let below := value.num / value.den
  let near := value.roundEven
  let far := if near = below then below + 1 else below
  if b.holds near place then some ⟨near, place⟩
  else if b.holds far place then some ⟨far, place⟩
  else none

/-- Tries one digit, then two, and so on; seventeen always suffice. -/
def Neighbourhood.search (b : Neighbourhood) (leading : Int) : Nat → Decimal
  | 0 => ⟨0, 0⟩
  | tries + 1 =>
    match b.pick? (leading - (17 - (tries + 1) : Int)) with
    | some d => d
    | none => search b leading tries

/-- The shortest decimal that reads as the double `mantissa * 2 ^ exponent`. -/
def shortest (mantissa : Nat) (exponent : Int) : Decimal :=
  if mantissa = 0 then ⟨0, 0⟩
  else
    ((Neighbourhood.of mantissa exponent).search
      (leadingExponent (Ratio.shift2 mantissa exponent)) 17).normalize

end Decimal

end Reminders
