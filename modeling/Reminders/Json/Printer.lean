import Reminders.Decimal.Layout
import Reminders.Json.Value

/-!
The text of JSON values.

`Json.toText` writes a value without blanks; `Json.pretty` gives every element and member a line of
its own and indents by two blanks. Doubles are written by their shortest decimal.
-/

namespace Reminders.Json

/-- A digit of a hexadecimal number, in small letters. -/
def hexDigit (d : Nat) : Char := if d < 10 then Char.ofNat (48 + d) else Char.ofNat (87 + d)

/-- A character as it stands between quotes. -/
def escapeChar (c : Char) : List Char :=
  if c = '"' then ['\\', '"']
  else if c = '\\' then ['\\', '\\']
  else if c = '\n' then ['\\', 'n']
  else if c = '\r' then ['\\', 'r']
  else if c = '\t' then ['\\', 't']
  else if c = '\x08' then ['\\', 'b']
  else if c = '\x0c' then ['\\', 'f']
  else if c.toNat < 32 then ['\\', 'u', '0', '0', hexDigit (c.toNat / 16), hexDigit (c.toNat % 16)]
  else [c]

/-- A text between quotes. -/
def quoted (s : String) : List Char := '"' :: s.toList.flatMap escapeChar ++ ['"']

/-- A double; those that are not numbers are written as null. -/
def floatText (x : Float) : List Char :=
  match Binary.ofFloat x with
  | .finite negative mantissa exponent => Decimal.shortestChars negative mantissa exponent
  | _ => "null".toList

mutual

/-- The text of a value, without blanks. -/
def chars : Json → List Char
  | .null => "null".toList
  | .bool true => "true".toList
  | .bool false => "false".toList
  | .int n => Numeral.signed n
  | .float x => floatText x
  | .str s => quoted s
  | .arr [] => "[]".toList
  | .arr (item :: items) => '[' :: chars item ++ restItems items
  | .obj [] => ['\x7b', '\x7d']
  | .obj ((name, value) :: members) =>
    '\x7b' :: quoted name ++ ':' :: chars value ++ restMembers members

/-- The items after the first, and the closing bracket. -/
def restItems : List Json → List Char
  | [] => [']']
  | item :: items => ',' :: chars item ++ restItems items

/-- The members after the first, and the closing brace. -/
def restMembers : List (String × Json) → List Char
  | [] => ['\x7d']
  | (name, value) :: members => ',' :: quoted name ++ ':' :: chars value ++ restMembers members

end

/-- The text of a value, without blanks. -/
def toText (v : Json) : String := String.ofList v.chars

/-- A new line, indented by two blanks a level. -/
def newLine (level : Nat) : List Char := '\n' :: List.replicate (2 * level) ' '

mutual

/-- The text of a value over several lines. -/
def prettyChars (level : Nat) : Json → List Char
  | .arr [] => "[]".toList
  | .arr (item :: items) =>
    '[' :: newLine (level + 1) ++ prettyChars (level + 1) item ++ prettyItems level items
  | .obj [] => ['\x7b', '\x7d']
  | .obj ((name, value) :: members) =>
    '\x7b' :: newLine (level + 1) ++ quoted name ++ ": ".toList ++ prettyChars (level + 1) value ++
      prettyMembers level members
  | v => chars v

/-- The items after the first, and the closing bracket. -/
def prettyItems (level : Nat) : List Json → List Char
  | [] => newLine level ++ [']']
  | item :: items =>
    ',' :: newLine (level + 1) ++ prettyChars (level + 1) item ++ prettyItems level items

/-- The members after the first, and the closing brace. -/
def prettyMembers (level : Nat) : List (String × Json) → List Char
  | [] => newLine level ++ ['\x7d']
  | (name, value) :: members =>
    ',' :: newLine (level + 1) ++ quoted name ++ ": ".toList ++ prettyChars (level + 1) value ++
      prettyMembers level members

end

/-- The text of a value over several lines. -/
def pretty (v : Json) : String := String.ofList (v.prettyChars 0)

end Reminders.Json
