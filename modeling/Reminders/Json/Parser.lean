import Reminders.Json.Value
import Reminders.Text.Width

/-!
Reading JSON.

`Json.parse?` reads a whole text. A value may be nested 127 deep; a numeral whose double would be
infinite, a control character in a string and half a surrogate pair are refused.
-/

namespace Reminders.Json

/-- The blanks of JSON. -/
def isSpace (c : Char) : Bool := c == ' ' || c == '\n' || c == '\t' || c == '\r'

def skipSpace (cs : List Char) : List Char := cs.dropWhile isSpace

/-- The value of a hexadecimal digit. -/
def hexValue? (c : Char) : Option Nat :=
  if '0' ≤ c ∧ c ≤ '9' then some (c.toNat - 48)
  else if 'a' ≤ c ∧ c ≤ 'f' then some (c.toNat - 87)
  else if 'A' ≤ c ∧ c ≤ 'F' then some (c.toNat - 55)
  else none

/-- The value of four hexadecimal digits. -/
def hexQuad? (a b c d : Char) : Option Nat := do
  return (((← hexValue? a) * 16 + (← hexValue? b)) * 16 + (← hexValue? c)) * 16 + (← hexValue? d)

/-- The character of a pair of surrogates. -/
def pairChar? (high low : Nat) : Option Char :=
  if 0xD800 ≤ high ∧ high < 0xDC00 ∧ 0xDC00 ≤ low ∧ low < 0xE000 then
    some (Char.ofNat (0x10000 + (high - 0xD800) * 0x400 + (low - 0xDC00)))
  else none

/-- The character that a single letter stands for after a backslash. -/
def escaped? : Char → Option Char
  | '"' => some '"'
  | '\\' => some '\\'
  | '/' => some '/'
  | 'b' => some '\x08'
  | 'f' => some '\x0c'
  | 'n' => some '\n'
  | 'r' => some '\r'
  | 't' => some '\t'
  | _ => none

/-- Reads a string up to its closing quote. -/
def stringBody : List Char → Option (List Char × List Char)
  | [] => none
  | '"' :: rest => some ([], rest)
  | '\\' :: 'u' :: a :: b :: c :: d :: rest =>
    match hexQuad? a b c d with
    | none => none
    | some n =>
      if 0xD800 ≤ n ∧ n < 0xE000 then
        match rest with
        | '\\' :: 'u' :: e :: f :: g :: h :: rest =>
          match (hexQuad? e f g h).bind (pairChar? n) with
          | none => none
          | some ch => (stringBody rest).map fun (cs, after) => (ch :: cs, after)
        | _ => none
      else (stringBody rest).map fun (cs, after) => (Char.ofNat n :: cs, after)
  | '\\' :: e :: rest =>
    match escaped? e with
    | none => none
    | some ch => (stringBody rest).map fun (cs, after) => (ch :: cs, after)
  | c :: rest =>
    if c.toNat < 32 ∨ c = '\\' then none
    else (stringBody rest).map fun (cs, after) => (c :: cs, after)

/-- The double nearest to a decimal; none when it would be infinite. -/
def decimalFloat? (negative : Bool) (digits : Nat) (exponent : Int) : Option Float :=
  let places : Int := (Numeral.digits digits).length
  let x : Float :=
    if digits = 0 ∨ exponent + places < -400 then 0.0
    else if 400 < exponent + places then 1.0 / 0.0
    else if exponent < 0 then Float.ofScientific digits true (-exponent).toNat
    else Float.ofScientific digits false exponent.toNat
  if x.isInf then none else some (if negative then -x else x)

/-- Reads digits, at least one. -/
def digits? (cs : List Char) : Option (List Char × List Char) :=
  let taken := cs.takeWhile Numeral.isDigit
  if taken = [] then none else some (taken, cs.drop taken.length)

/-- Reads a fraction, if there is one. -/
def fraction? : List Char → Option (List Char × List Char)
  | '.' :: rest => digits? rest
  | cs => some ([], cs)

/-- Reads an exponent, if there is one. -/
def exponent? : List Char → Option (Option Int × List Char)
  | c :: rest =>
    if c = 'e' ∨ c = 'E' then
      let (negative, rest) := match rest with
        | '-' :: rest => (true, rest)
        | '+' :: rest => (false, rest)
        | rest => (false, rest)
      (digits? rest).map fun (ds, after) =>
        let n : Int := Numeral.value ds
        (some (if negative then -n else n), after)
    else some (none, c :: rest)
  | [] => some (none, [])

/-- The number of a numeral without fraction and exponent. -/
def wholeNumber? (negative : Bool) (n : Nat) : Option Json :=
  if negative then
    if 0 < n ∧ Width.minInt64 ≤ -(n : Int) then some (.int (-n)) else (decimalFloat? true n 0).map .float
  else if n ≤ Width.maxWord64 then some (.int n)
  else (decimalFloat? false n 0).map .float

/-- Reads a number. -/
def number? (cs : List Char) : Option (Json × List Char) := do
  let (negative, cs) := match cs with
    | '-' :: rest => (true, rest)
    | cs => (false, cs)
  let (whole, rest) ← digits? cs
  if 2 ≤ whole.length ∧ whole.head? = some '0' then none
  else
    let (places, rest) ← fraction? rest
    let (exponent, rest) ← exponent? rest
    if places = [] ∧ exponent = none then
      return (← wholeNumber? negative (Numeral.value whole), rest)
    else
      let x ← decimalFloat? negative (Numeral.value (whole ++ places))
        (exponent.getD 0 - places.length)
      return (.float x, rest)

/-- Drops a given beginning. -/
def after? (start cs : List Char) : Option (List Char) :=
  if start.isPrefixOf cs then some (cs.drop start.length) else none

mutual

/-- Reads a value; `fuel` bounds the number of values and `depth` their nesting. -/
def value? (fuel depth : Nat) (cs : List Char) : Option (Json × List Char) :=
  match fuel with
  | 0 => none
  | fuel + 1 =>
    match skipSpace cs with
    | [] => none
    | '"' :: rest => (stringBody rest).map fun (s, after) => (.str (String.ofList s), after)
    | '[' :: rest =>
      if depth = 0 then none
      else match skipSpace rest with
        | ']' :: after => some (.arr [], after)
        | rest => (items? fuel (depth - 1) rest).map fun (items, after) => (.arr items, after)
    | c :: rest =>
      if c = '\x7b' then
        if depth = 0 then none
        else match skipSpace rest with
          | '\x7d' :: after => some (.obj [], after)
          | rest => (members? fuel (depth - 1) rest).map fun (members, after) => (object members, after)
      else if c = 'n' then (after? "ull".toList rest).map (.null, ·)
      else if c = 't' then (after? "rue".toList rest).map (.bool true, ·)
      else if c = 'f' then (after? "alse".toList rest).map (.bool false, ·)
      else number? (c :: rest)

/-- Reads items up to the closing bracket. -/
def items? (fuel depth : Nat) (cs : List Char) : Option (List Json × List Char) :=
  match fuel with
  | 0 => none
  | fuel + 1 => do
    let (item, rest) ← value? fuel depth cs
    match skipSpace rest with
    | ',' :: rest => (items? fuel depth rest).map fun (items, after) => (item :: items, after)
    | ']' :: rest => some ([item], rest)
    | _ => none

/-- Reads members up to the closing brace. -/
def members? (fuel depth : Nat) (cs : List Char) : Option (List (String × Json) × List Char) :=
  match fuel with
  | 0 => none
  | fuel + 1 =>
    match skipSpace cs with
    | '"' :: rest => do
      let (name, rest) ← stringBody rest
      match skipSpace rest with
      | ':' :: rest =>
        let (value, rest) ← value? fuel depth rest
        match skipSpace rest with
        | ',' :: rest =>
          (members? fuel depth rest).map fun (members, after) =>
            ((String.ofList name, value) :: members, after)
        | '\x7d' :: rest => some ([(String.ofList name, value)], rest)
        | _ => none
      | _ => none
    | _ => none

end

/-- How deep values may be nested. -/
def maxDepth : Nat := 127

/-- Reads a whole text. Every value takes at least one character, and so does every comma, so twice
the length of the text bounds the steps. -/
def parse? (s : String) : Option Json :=
  let cs := s.toList
  match value? (2 * cs.length + 2) maxDepth cs with
  | some (v, rest) => if skipSpace rest = [] then some v else none
  | none => none

end Reminders.Json
