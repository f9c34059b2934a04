/-!
Base64.

Three bytes are written as four letters of an alphabet of 64; what is left at the end is filled up
with equals signs.
-/

namespace Reminders.Base64

/-- The letters. -/
def alphabet : List Char :=
  "ABCDEFGHIJKLMNOPQRSTUVWXYZabcdefghijklmnopqrstuvwxyz0123456789+/".toList

/-- The letter of a number below 64. -/
def letter (n : Nat) : Char := alphabet.getD (n % 64) 'A'

/-- The letters of some bytes. -/
def chars : List UInt8 → List Char
  | a :: b :: c :: rest =>
    letter (a.toNat / 4) :: letter (a.toNat * 16 + b.toNat / 16) ::
      letter (b.toNat * 4 + c.toNat / 64) :: letter c.toNat :: chars rest
  | [a, b] => [letter (a.toNat / 4), letter (a.toNat * 16 + b.toNat / 16), letter (b.toNat * 4), '=']
  | [a] => [letter (a.toNat / 4), letter (a.toNat * 16), '=', '=']
  | [] => []

/-- The text of some bytes. -/
def encode (bytes : List UInt8) : String := String.ofList (chars bytes)

end Reminders.Base64
