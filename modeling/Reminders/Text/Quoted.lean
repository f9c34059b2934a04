import Reminders.Text.Hidden

/-!
Quoted text in messages.

A message shows a text between double quotes. Quotes, backslashes and the usual controls follow a
backslash; any other character that does not show is written by its code point.
-/

namespace Reminders.Text

/-- The hexadecimal numeral of a code point, in small letters. -/
def codePoint (c : Char) : List Char := Nat.toDigits 16 c.toNat

/-- A character as a message shows it. -/
def showChar (c : Char) : List Char :=
  if c = '"' then ['\\', '"']
  else if c = '\\' then ['\\', '\\']
  else if c = '\n' then ['\\', 'n']
  else if c = '\r' then ['\\', 'r']
  else if c = '\t' then ['\\', 't']
  else if c = '\x00' then ['\\', '0']
  else if isHidden c then ['\\', 'u', '\x7b'] ++ codePoint c ++ ['\x7d']
  else [c]

/-- A text between double quotes, as a message shows it. -/
def quoted (s : String) : String := String.ofList ('"' :: s.toList.flatMap showChar ++ ['"'])

end Reminders.Text
