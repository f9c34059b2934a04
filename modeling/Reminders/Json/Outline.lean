import Reminders.Json.Parser
import Reminders.Text.Utf8

/-!
Outlines of JSON texts.

Who wants a few fields of a text passes over the rest of it. `Json.outline?` reads the octets of a
text as far as the members of an object or the items of an array and leaves every value as it is
written. What is passed over is written as JSON is, but values may be nested at any depth, numerals
may be of any size, an escape may be half a surrogate pair, and a string need not be UTF-8.

Octets stand here as the characters of their numbers.
-/

namespace Reminders.Json

/-! ### Passing over values -/

/-- Reads a string as it is written, up to its closing quote. -/
def rawString? : List Char → Option (List Char × List Char)
  | [] => none
  | '"' :: rest => some ([], rest)
  | '\\' :: 'u' :: a :: b :: c :: d :: rest =>
    if (hexQuad? a b c d).isSome then
      (rawString? rest).map fun (raw, after) => ('\\' :: 'u' :: a :: b :: c :: d :: raw, after)
    else none
  | '\\' :: e :: rest =>
    if (escaped? e).isSome then
      (rawString? rest).map fun (raw, after) => ('\\' :: e :: raw, after)
    else none
  | c :: rest =>
    if c.toNat < 32 ∨ c = '\\' then none
    else (rawString? rest).map fun (raw, after) => (c :: raw, after)

/-- What follows a numeral. -/
def afterNumber? (cs : List Char) : Option (List Char) := do
  let (whole, rest) ← digits? (match cs with
    | '-' :: rest => rest
    | cs => cs)
  if 2 ≤ whole.length ∧ whole.head? = some '0' then none
  else
    let (_, rest) ← fraction? rest
    let (_, rest) ← exponent? rest
    return rest

mutual

/-- Reads a value as it is written; `fuel` bounds the number of values. -/
def rawValue? (fuel : Nat) (cs : List Char) : Option (List Char × List Char) :=
  match fuel with
  | 0 => none
  | fuel + 1 =>
    let start := skipSpace cs
    let rest := match start with
      | [] => none
      | '"' :: rest => (rawString? rest).map Prod.snd
      | '[' :: rest =>
        match skipSpace rest with
        | ']' :: after => some after
        | rest => (rawItems? fuel rest).map Prod.snd
      | c :: rest =>
        if c = '\x7b' then
          match skipSpace rest with
          | '\x7d' :: after => some after
          | rest => (rawMembers? fuel rest).map Prod.snd
        else if c = 'n' then after? "ull".toList rest
        else if c = 't' then after? "rue".toList rest
        else if c = 'f' then after? "alse".toList rest
        else afterNumber? (c :: rest)
    rest.map fun rest => (start.take (start.length - rest.length), rest)

/-- Reads items as they are written, up to the closing bracket. -/
def rawItems? (fuel : Nat) (cs : List Char) : Option (List (List Char) × List Char) :=
  match fuel with
  | 0 => none
  | fuel + 1 => do
    let (item, rest) ← rawValue? fuel cs
    match skipSpace rest with
    | ',' :: rest => (rawItems? fuel rest).map fun (items, after) => (item :: items, after)
    | ']' :: rest => some ([item], rest)
    | _ => none

/-- Reads members as they are written, up to the closing brace. -/
def rawMembers? (fuel : Nat) (cs : List Char) :
    Option (List (List Char × List Char) × List Char) :=
  match fuel with
  | 0 => none
  | fuel + 1 =>
    match skipSpace cs with
    | '"' :: rest => do
      let (name, rest) ← rawString? rest
      match skipSpace rest with
      | ':' :: rest =>
        let (value, rest) ← rawValue? fuel rest
        match skipSpace rest with
        | ',' :: rest =>
          (rawMembers? fuel rest).map fun (members, after) => ((name, value) :: members, after)
        | '\x7d' :: rest => some ([(name, value)], rest)
        | _ => none
      | _ => none
    | _ => none

end

/-! ### Reading what was left as it is written -/

/-- The text of a string as it is written, without its quotes. -/
def textOf? (raw : List Char) : Option String := do
  let s ← Utf8.decode? (raw.map fun c => UInt8.ofNat c.toNat)
  match stringBody (s.toList ++ ['"']) with
  | some (cs, []) => some (String.ofList cs)
  | _ => none

/-- The value of a boolean as it is written. -/
def boolOf? (raw : List Char) : Option Bool :=
  if raw = "true".toList then some true
  else if raw = "false".toList then some false
  else none

/-- The text of a string as it is written, or none of a null. -/
def textOrNull? (raw : List Char) : Option (Option String) :=
  match raw with
  | '"' :: rest =>
    match rawString? rest with
    | some (body, []) => (textOf? body).map some
    | _ => none
  | raw => if raw = "null".toList then some none else none

/-! ### Outlines -/

/-- The members of an object or the items of an array, each value as it is written. -/
inductive Outline where
  | members (list : List (String × List Char))
  | items (list : List (List Char))

/-- The values of the members of a name. -/
def valuesOf (name : String) (members : List (String × List Char)) : List (List Char) :=
  (members.filter fun member => member.1 = name).map Prod.snd

/-- The outline of an object from its opening brace on. -/
def outlineMembers? (fuel : Nat) (cs : List Char) : Option (Outline × List Char) := do
  let (members, rest) ← match skipSpace cs with
    | '\x7d' :: after => some ([], after)
    | rest => rawMembers? fuel rest
  let members ← members.mapM fun (name, value) => do return (← textOf? name, value)
  return (.members members, rest)

/-- The outline of an array from its opening bracket on. -/
def outlineItems? (fuel : Nat) (cs : List Char) : Option (Outline × List Char) := do
  let (items, rest) ← match skipSpace cs with
    | ']' :: after => some ([], after)
    | rest => rawItems? fuel rest
  return (.items items, rest)

/-- The outline of the octets of a whole text. Twice their number bounds the steps. -/
def outline? (bs : List UInt8) : Option Outline := do
  let cs := bs.map fun b => Char.ofNat b.toNat
  let (outline, rest) ← match skipSpace cs with
    | '[' :: rest => outlineItems? (2 * cs.length + 2) rest
    | c :: rest => if c = '\x7b' then outlineMembers? (2 * cs.length + 2) rest else none
    | [] => none
  if skipSpace rest = [] then some outline else none

end Reminders.Json
