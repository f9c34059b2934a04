import Reminders.Json.Parser
import Reminders.Json.Printer
import Reminders.Text.Utf8

/-!
Percent encoding.

An octet that must not stand in an address is written as a percent sign and two hexadecimal digits.
-/

namespace Reminders.Percent

/-- A hexadecimal digit, in capitals. -/
def digit (n : Nat) : Char := (Json.hexDigit n).toUpper

/-- An octet behind a percent sign. -/
def escape (b : UInt8) : List Char := ['%', digit (b.toNat / 16), digit (b.toNat % 16)]

/-- Writes the characters that are to be escaped by their octets; characters beyond ASCII always
are. -/
def encode (escaped : Char → Bool) (cs : List Char) : List Char :=
  cs.flatMap fun c =>
    if c.toNat < 0x80 && !escaped c then [c] else (String.utf8EncodeChar c).flatMap escape

/-- The octets that are written in a text with percent signs. -/
def decode : List Char → List UInt8
  | [] => []
  | '%' :: a :: b :: rest =>
    match Json.hexValue? a, Json.hexValue? b with
    | some x, some y => UInt8.ofNat (16 * x + y) :: decode rest
    | _, _ => 0x25 :: decode (a :: b :: rest)
  | c :: rest => String.utf8EncodeChar c ++ decode rest

end Reminders.Percent
