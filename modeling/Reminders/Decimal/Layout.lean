import Reminders.Decimal.Shortest

/-!
The writing of doubles.

`shortestText` writes the shortest decimal: with a point and at least one digit after it while the
leading digit stands between the fifth place after the point and the sixteenth before it, and with
an exponent otherwise. `fixedText` writes a given number of places, a half going to the even
neighbour. `significantText` writes a given number of significant digits.
-/

namespace Reminders.Decimal

/-- A sign before a text. -/
def withSign (negative : Bool) (cs : List Char) : List Char := if negative then '-' :: cs else cs

/-- Digits with a point after the first, and an exponent. -/
def scientific (digits : List Char) (leading : Int) : List Char :=
  match digits with
  | [] => []
  | [d] => d :: 'e' :: Numeral.signed leading
  | d :: ds => d :: '.' :: ds ++ 'e' :: Numeral.signed leading

/-- Digits times a power of ten, with a point and at least one digit on either side. -/
def positional (digits : List Char) (exponent : Int) : List Char :=
  let place := digits.length + exponent
  if 0 ≤ exponent then digits ++ List.replicate exponent.toNat '0' ++ ".0".toList
  else if 0 < place then digits.take place.toNat ++ '.' :: digits.drop place.toNat
  else "0.".toList ++ List.replicate (-place).toNat '0' ++ digits

/-- The text of the shortest decimal of a finite double. -/
def shortestChars (negative : Bool) (mantissa : Nat) (exponent : Int) : List Char :=
  let d := shortest mantissa exponent
  let ds := Numeral.digits d.digits
  let place := ds.length + d.exponent
  withSign negative
    (if -5 < place ∧ place ≤ 16 then positional ds d.exponent else scientific ds (place - 1))

/-- The text of the shortest decimal of a double. -/
def shortestText (x : Float) : String :=
  match Binary.ofFloat x with
  | .nan => "NaN"
  | .infinite negative => if negative then "-inf" else "inf"
  | .finite negative mantissa exponent => String.ofList (shortestChars negative mantissa exponent)

/-- The text of a finite double with a fixed number of places, one or more. -/
def fixedChars (places : Nat) (negative : Bool) (mantissa : Nat) (exponent : Int) : List Char :=
  let scaled := ((Ratio.shift2 mantissa exponent).shift10 places).roundEven
  withSign negative
    (Numeral.digits (scaled / Nat.pow 10 places) ++ '.' :: Numeral.padded places (scaled % Nat.pow 10 places))

/-- The text of a double with a fixed number of places, one or more. -/
def fixedText (places : Nat) (x : Float) : String :=
  match Binary.ofFloat x with
  | .nan => "NaN"
  | .infinite negative => if negative then "-inf" else "inf"
  | .finite negative mantissa exponent => String.ofList (fixedChars places negative mantissa exponent)

/-- The decimal of a number of significant digits that is nearest to a double. -/
def significant (count mantissa : Nat) (exponent : Int) : Decimal :=
  if mantissa = 0 then ⟨0, 0⟩
  else
    let r := Ratio.shift2 mantissa exponent
    let place := leadingExponent r - (count - 1 : Int)
    normalize ⟨(r.shift10 (-place)).roundEven, place⟩

/-- Digits with a point and an exponent of two digits or more with its sign. -/
def exponential (digits : List Char) (leading : Int) : List Char :=
  let tail := match digits.drop 1 with
    | [] => ['0']
    | ds => ds
  digits.take 1 ++ '.' :: tail ++ 'e' :: (if leading < 0 then '-' else '+') ::
    Numeral.padded 2 leading.natAbs

/-- The text of a double with a number of significant digits, zeros at the end dropped: positional
while the leading digit stands between the fourth place after the point and the last significant
place before it. -/
def significantText (count : Nat) (x : Float) : String :=
  match Binary.ofFloat x with
  | .nan => "NaN"
  | .infinite negative => if negative then "-Inf" else "Inf"
  | .finite negative mantissa exponent =>
    let d := significant count mantissa exponent
    let ds := Numeral.digits d.digits
    let leading := ds.length + d.exponent - 1
    let cs := if -4 ≤ leading ∧ leading < count then positional ds d.exponent
      else exponential ds leading
    String.ofList (withSign (negative && mantissa ≠ 0) cs)

end Reminders.Decimal
