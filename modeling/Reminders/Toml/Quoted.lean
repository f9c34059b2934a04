import Reminders.Json.Printer

/-!
Writing strings of TOML.

A string is written between double quotes with escapes. One that holds a double quote or a backslash
is written between single quotes without escapes, if it can be. A string of several lines is written
between triple quotes and starts on a line of its own.
-/

namespace Reminders.Toml

/-- Whether a character needs an escape wherever it stands. -/
def isControl (c : Char) : Bool := c.toNat < 0x20 || c.toNat == 0x7F

/-- Whether three single quotes stand in a row somewhere. -/
def hasTripleQuote : List Char → Bool
  | '\'' :: '\'' :: '\'' :: _ => true
  | _ :: rest => hasTripleQuote rest
  | [] => false

/-- Whether a string is written without escapes: that spares some, and nothing in the string stands
against it. -/
def isLiteral (cs : List Char) : Bool :=
  cs.any (fun c => c == '"' || c == '\\') &&
    cs.all (fun c => c == '\t' || c == '\n' || !isControl c) &&
    !hasTripleQuote cs && cs.getLast? ≠ some '\''

/-- A character between double quotes. -/
def escapedChar (multiline : Bool) (c : Char) : List Char :=
  match c with
  | '\x08' => ['\\', 'b']
  | '\t' => ['\\', 't']
  | '\n' => if multiline then ['\n'] else ['\\', 'n']
  | '\x0c' => ['\\', 'f']
  | '\r' => ['\\', 'r']
  | '"' => ['\\', '"']
  | '\\' => ['\\', '\\']
  | c =>
    if isControl c then
      let digit (n : Nat) := (Json.hexDigit n).toUpper
      ['\\', 'u', '0', '0', digit (c.toNat / 16), digit (c.toNat % 16)]
    else [c]

/-- The written form of a string. -/
def quoted (s : String) : String :=
  let cs := s.toList
  let multiline := cs.contains '\n'
  if isLiteral cs then
    if multiline then "'''\n" ++ s ++ "'''"
    else if cs.contains '\'' then "'''" ++ s ++ "'''"
    else "'" ++ s ++ "'"
  else
    let body := String.ofList (cs.flatMap (escapedChar multiline))
    if multiline then "\"\"\"\n" ++ body ++ "\"\"\"" else "\"" ++ body ++ "\""

end Reminders.Toml
