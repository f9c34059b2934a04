import Reminders.Json.Parser
import Reminders.Text.Width
import Reminders.Toml.Value

/-!
Numbers, times and strings of TOML.

A number or a time is one run of characters, which is classified as a whole. Strings come in four
kinds: between single or triple quotes, with escapes or without.
-/

namespace Reminders.Toml

/-! ### Numbers -/

/-- Digits of a base, with underscores between digits. -/
def digitRun (isDigit : Char → Bool) : List Char → Bool
  | [] => false
  | [c] => isDigit c
  | c :: '_' :: rest => isDigit c && digitRun isDigit rest
  | c :: d :: rest => isDigit c && digitRun isDigit (d :: rest)

/-- The digits without their underscores. -/
def dropUnderscores (cs : List Char) : List Char := cs.filter (· ≠ '_')

/-- The value of digits in a base. -/
def valueIn (base : Nat) (cs : List Char) : Nat :=
  cs.foldl (fun n c => n * base + (Json.hexValue? c).getD 0) 0

/-- A number without a sign: digits of which the first is no zero, unless it stands alone. -/
def plainDigits (cs : List Char) : Bool :=
  digitRun Numeral.isDigit cs && (cs.length = 1 || cs.head? ≠ some '0')

/-- A sign and what follows it. -/
def splitSign : List Char → Bool × List Char
  | '-' :: rest => (true, rest)
  | '+' :: rest => (false, rest)
  | cs => (false, cs)

/-- The value as a signed integer of 64 bits. -/
def inRange? (n : Int) : Option Int := if Width.IsInt64 n then some n else none

/-- Reads an integer. A number in another base has no sign. -/
def integer? (cs : List Char) : Option Int :=
  match cs with
  | '0' :: 'x' :: ds => based 16 (fun c => (Json.hexValue? c).isSome) ds
  | '0' :: 'o' :: ds => based 8 (fun c => '0' ≤ c && c ≤ '7') ds
  | '0' :: 'b' :: ds => based 2 (fun c => c == '0' || c == '1') ds
  | _ =>
    let (negative, ds) := splitSign cs
    if plainDigits ds then
      let n : Int := Numeral.value (dropUnderscores ds)
      inRange? (if negative then -n else n)
    else none
where
  based (base : Nat) (isDigit : Char → Bool) (ds : List Char) : Option Int :=
    if digitRun isDigit ds then inRange? (valueIn base (dropUnderscores ds)) else none

/-- An exponent: its mark, a sign if there is one, and digits. -/
def isExponent : List Char → Bool
  | c :: rest => (c == 'e' || c == 'E') && digitRun Numeral.isDigit (splitSign rest).2
  | [] => false

/-- The digits of a run and their underscores. -/
def isRunChar (c : Char) : Bool := Numeral.isDigit c || c == '_'

/-- Whether a run of characters is a number with a fraction or an exponent that is not too large. -/
def isFloat (cs : List Char) : Bool :=
  let (_, body) := splitSign cs
  if body = "inf".toList || body = "nan".toList then true
  else
    let whole := body.takeWhile isRunChar
    let rest := body.dropWhile isRunChar
    let wellFormed := match rest with
      | '.' :: rest =>
        let places := rest.takeWhile isRunChar
        let rest := rest.dropWhile isRunChar
        digitRun Numeral.isDigit places && (rest = [] || isExponent rest)
      | rest => isExponent rest
    plainDigits whole && wellFormed && (Json.number? (dropUnderscores body)).isSome

/-! ### Times -/

/-- Two digits between two bounds. -/
def twoDigits? (low high : Nat) : List Char → Option (Nat × List Char)
  | a :: b :: rest =>
    if Numeral.isDigit a && Numeral.isDigit b then
      let n := Numeral.value [a, b]
      if low ≤ n ∧ n ≤ high then some (n, rest) else none
    else none
  | _ => none

/-- One given character. -/
def char? (c : Char) : List Char → Option (List Char)
  | d :: rest => if d = c then some rest else none
  | [] => none

/-- Reads a date. -/
def date? (cs : List Char) : Option (List Char) := do
  let years := cs.take 4
  if years.length = 4 && years.all Numeral.isDigit then
    let rest ← char? '-' (cs.drop 4)
    let (month, rest) ← twoDigits? 1 12 rest
    let rest ← char? '-' rest
    let year := Numeral.value years
    let longest := match month with
      | 2 => if year % 4 = 0 ∧ (year % 100 ≠ 0 ∨ year % 400 = 0) then 29 else 28
      | 4 | 6 | 9 | 11 => 30
      | _ => 31
    let (_, rest) ← twoDigits? 1 longest rest
    return rest
  else none

/-- Reads a time of day. -/
def timeOfDay? (cs : List Char) : Option (List Char) := do
  let (_, rest) ← twoDigits? 0 23 cs
  let (_, rest) ← twoDigits? 0 59 (← char? ':' rest)
  let (_, rest) ← twoDigits? 0 60 (← char? ':' rest)
  match rest with
  | '.' :: rest =>
    let (_, rest) ← Json.digits? rest
    return rest
  | rest => return rest

/-- Reads a distance from UTC, if there is one. -/
def zone? : List Char → Option (List Char)
  | [] => some []
  | c :: rest =>
    if c = 'Z' ∨ c = 'z' then some rest
    else if c = '+' ∨ c = '-' then do
      let (_, rest) ← twoDigits? 0 23 rest
      let (_, rest) ← twoDigits? 0 59 (← char? ':' rest)
      return rest
    else none

/-- Whether a run of characters is a date, a time of day, or both with or without a zone. -/
def isTime (cs : List Char) : Bool :=
  let whole := match date? cs with
    | some [] => some []
    | some (c :: rest) =>
      if c = 'T' ∨ c = 't' ∨ c = ' ' then (timeOfDay? rest).bind zone? else none
    | none => timeOfDay? cs
  whole = some []

/-- The characters of numbers, times and words. -/
def isScalarChar (c : Char) : Bool :=
  c.isAlphanum || c == '_' || c == '+' || c == '-' || c == '.' || c == ':'

/-- The run of characters at the front; a time of day may follow a date after one blank. -/
def scalarRun (cs : List Char) : List Char × List Char :=
  let run := cs.takeWhile isScalarChar
  let rest := cs.dropWhile isScalarChar
  match rest with
  | ' ' :: a :: more =>
    if date? run = some [] && Numeral.isDigit a then
      (run ++ ' ' :: (a :: more).takeWhile isScalarChar, (a :: more).dropWhile isScalarChar)
    else (run, rest)
  | _ => (run, rest)

/-- Reads a number, a time or a truth value. -/
def scalar? (cs : List Char) : Option (Toml × List Char) :=
  let (run, rest) := scalarRun cs
  if run = "true".toList then some (.bool true, rest)
  else if run = "false".toList then some (.bool false, rest)
  else match integer? run with
    | some n => some (.int n, rest)
    | none =>
      if isTime run then some (.time (String.ofList run), rest)
      else if isFloat run then some (.float (String.ofList run), rest)
      else none

/-! ### Strings -/

/-- A character that may stand in a string or a comment as it is. -/
def isPlain (c : Char) : Bool := c == '\t' || (0x20 ≤ c.toNat && c.toNat ≠ 0x7F)

/-- The character with a code point, if there is one. -/
def charOf? (n : Nat) : Option Char :=
  if n < 0xD800 ∨ (0xE000 ≤ n ∧ n < 0x110000) then some (Char.ofNat n) else none

/-- The character of some hexadecimal digits. -/
def hexChar? (cs : List Char) : Option Char :=
  if cs.all fun c => (Json.hexValue? c).isSome then charOf? (valueIn 16 cs) else none

/-- The character that a single letter stands for after a backslash. -/
def escaped? : Char → Option Char
  | 'b' => some '\x08'
  | 't' => some '\t'
  | 'n' => some '\n'
  | 'f' => some '\x0c'
  | 'r' => some '\r'
  | '"' => some '"'
  | '\\' => some '\\'
  | _ => none

/-- Reads a string with escapes up to its closing quote. -/
def basicBody : List Char → Option (List Char × List Char)
  | [] => none
  | '"' :: rest => some ([], rest)
  | '\\' :: 'u' :: a :: b :: c :: d :: rest =>
    match hexChar? [a, b, c, d] with
    | some ch => (basicBody rest).map fun (cs, after) => (ch :: cs, after)
    | none => none
  | '\\' :: 'U' :: a :: b :: c :: d :: e :: f :: g :: h :: rest =>
    match hexChar? [a, b, c, d, e, f, g, h] with
    | some ch => (basicBody rest).map fun (cs, after) => (ch :: cs, after)
    | none => none
  | '\\' :: e :: rest =>
    match escaped? e with
    | some ch => (basicBody rest).map fun (cs, after) => (ch :: cs, after)
    | none => none
  | c :: rest =>
    if isPlain c && c ≠ '\\' then (basicBody rest).map fun (cs, after) => (c :: cs, after) else none

/-- Reads a string without escapes up to its closing quote. -/
def literalBody : List Char → Option (List Char × List Char)
  | [] => none
  | '\'' :: rest => some ([], rest)
  | c :: rest =>
    if isPlain c then (literalBody rest).map fun (cs, after) => (c :: cs, after) else none

/-- The end of a string in triple quotes: up to two quotes may stand before the closing ones. -/
def tripleEnd? (q : Char) : List Char → Option (List Char × List Char)
  | a :: b :: c :: rest =>
    if a = q ∧ b = q ∧ c = q then
      match rest with
      | d :: e :: rest =>
        if d = q ∧ e = q then some ([q, q], rest)
        else if d = q then some ([q], e :: rest)
        else some ([], d :: e :: rest)
      | [d] => if d = q then some ([q], []) else some ([], [d])
      | [] => some ([], [])
    else none
  | _ => none

/-- A line ends here, blanks apart. -/
def lineEnds (cs : List Char) : Bool :=
  match cs.dropWhile fun c => c == ' ' || c == '\t' with
  | '\n' :: _ => true
  | '\r' :: '\n' :: _ => true
  | _ => false

/-- Reads a string with escapes up to its closing quotes. After a backslash at the end of a line,
while `skipping`, blanks and line ends are passed over. -/
def multiBasicBody (skipping : Bool) (cs : List Char) : Option (List Char × List Char) :=
  match tripleEnd? '"' cs with
  | some (quotes, after) => some (quotes, after)
  | none =>
    match cs with
    | [] => none
    | '\r' :: '\n' :: rest =>
      if skipping then multiBasicBody true rest
      else (multiBasicBody false rest).map fun (cs, after) => ('\n' :: cs, after)
    | '\n' :: rest =>
      if skipping then multiBasicBody true rest
      else (multiBasicBody false rest).map fun (cs, after) => ('\n' :: cs, after)
    | '\\' :: 'u' :: a :: b :: c :: d :: rest =>
      match hexChar? [a, b, c, d] with
      | some ch => (multiBasicBody false rest).map fun (cs, after) => (ch :: cs, after)
      | none => none
    | '\\' :: 'U' :: a :: b :: c :: d :: e :: f :: g :: h :: rest =>
      match hexChar? [a, b, c, d, e, f, g, h] with
      | some ch => (multiBasicBody false rest).map fun (cs, after) => (ch :: cs, after)
      | none => none
    | '\\' :: e :: rest =>
      if lineEnds (e :: rest) then multiBasicBody true (e :: rest)
      else match escaped? e with
        | some ch => (multiBasicBody false rest).map fun (cs, after) => (ch :: cs, after)
        | none => none
    | c :: rest =>
      if skipping && (c == ' ' || c == '\t') then multiBasicBody true rest
      else if isPlain c && c ≠ '\\' then
        (multiBasicBody false rest).map fun (cs, after) => (c :: cs, after)
      else none
termination_by cs.length

/-- Reads a string without escapes up to its closing quotes. -/
def multiLiteralBody (cs : List Char) : Option (List Char × List Char) :=
  match tripleEnd? '\'' cs with
  | some (quotes, after) => some (quotes, after)
  | none =>
    match cs with
    | [] => none
    | '\r' :: '\n' :: rest => (multiLiteralBody rest).map fun (cs, after) => ('\n' :: cs, after)
    | c :: rest =>
      if isPlain c || c == '\n' then
        (multiLiteralBody rest).map fun (cs, after) => (c :: cs, after)
      else none
termination_by cs.length

/-- Drops the end of a line right after the opening quotes. -/
def dropLineEnd : List Char → List Char
  | '\n' :: rest => rest
  | '\r' :: '\n' :: rest => rest
  | cs => cs

/-- Reads a string of any kind. -/
def string? : List Char → Option (List Char × List Char)
  | '"' :: '"' :: '"' :: rest => multiBasicBody false (dropLineEnd rest)
  | '"' :: rest => basicBody rest
  | '\'' :: '\'' :: '\'' :: rest => multiLiteralBody (dropLineEnd rest)
  | '\'' :: rest => literalBody rest
  | _ => none

end Reminders.Toml
