import Reminders.Text.Utf8
import Reminders.Web.Percent

/-!
Hosts.

A host of the web is a name, whose letters are written small and whose labels beyond ASCII are
written in Punycode, or a number of four or of eight parts. `Host.ofText?` gives the written form of
a host.
-/

namespace Reminders.Host

/-! ### Names beyond ASCII -/

/-- How Punycode moves its bias after a character. -/
def adaptBias (delta points : Nat) (first : Bool) : Nat :=
  let delta := if first then delta / 700 else delta / 2
  reduce 32 (delta + delta / points) 0
where
  reduce : Nat → Nat → Nat → Nat
    | 0, delta, k => k + 36 * delta / (delta + 38)
    | fuel + 1, delta, k =>
      if 455 < delta then reduce fuel (delta / 35) (k + 36) else k + 36 * delta / (delta + 38)

/-- A digit of Punycode. -/
def punyDigit (n : Nat) : Char := if n < 26 then Char.ofNat (97 + n) else Char.ofNat (22 + n)

/-- A number in the digits of Punycode; `fuel` bounds their number. -/
def punyNumber (bias : Nat) : Nat → Nat → Nat → List Char
  | 0, _, _ => []
  | fuel + 1, k, q =>
    let t := if k ≤ bias then 1 else if bias + 26 ≤ k then 26 else k - bias
    if q < t then [punyDigit q]
    else punyDigit (t + (q - t) % (36 - t)) :: punyNumber bias fuel (k + 36) ((q - t) / (36 - t))

/-- Where the encoding of a label stands. -/
structure PunyState where
  delta : Nat
  bias : Nat
  /-- How many characters have been written. -/
  written : Nat
  out : List Char

/-- Writes every occurrence of one character of a label. -/
def writeChar (basic : Nat) (n : Nat) (s : PunyState) (c : Char) : PunyState :=
  if c.toNat < n then { s with delta := s.delta + 1 }
  else if c.toNat = n then
    { delta := 0
      bias := adaptBias s.delta (s.written + 1) (s.written = basic)
      written := s.written + 1
      out := s.out ++ punyNumber s.bias 64 36 s.delta }
  else s

/-- A label in Punycode, without its mark. -/
def punycode (label : List Char) : List Char :=
  let basic := label.filter fun c => c.toNat < 0x80
  let others := ((label.map Char.toNat).filter fun n => 0x80 ≤ n).mergeSort.eraseDups
  let start : Nat × PunyState :=
    (0x80, ⟨0, 72, basic.length, basic ++ if basic = [] then [] else ['-']⟩)
  (others.foldl
    (fun (n, s) m =>
      let s := { s with delta := s.delta + (m - n) * (s.written + 1) }
      let s := label.foldl (writeChar basic.length m) s
      (m + 1, { s with delta := s.delta + 1 }))
    start).2.out

/-- The characters that a character of a name is taken for. Capitals of the Latin, Greek and Cyrillic
alphabets are written small, wide forms narrow, and every full stop as a point. -/
def fold (c : Char) : List Char :=
  let n := c.toNat
  if n < 0x80 then [c.toLower]
  else if n = 0xAD ∨ n = 0x200B ∨ n = 0xFEFF then []
  else if n = 0x3002 ∨ n = 0xFF0E ∨ n = 0xFF61 then ['.']
  else if 0xFF01 ≤ n ∧ n ≤ 0xFF5E then [(Char.ofNat (n - 0xFEE0)).toLower]
  else if (0xC0 ≤ n ∧ n ≤ 0xDE ∧ n ≠ 0xD7) ∨ (0x391 ≤ n ∧ n ≤ 0x3A9) ∨ (0x410 ≤ n ∧ n ≤ 0x42F) then
    [Char.ofNat (n + 0x20)]
  else if 0x400 ≤ n ∧ n ≤ 0x40F then [Char.ofNat (n + 0x50)]
  else [c]

/-- A label in ASCII. -/
def asciiLabel (label : List Char) : List Char :=
  if label.all fun c => c.toNat < 0x80 then label else "xn--".toList ++ punycode label

/-- A name in ASCII. -/
def asciiName (cs : List Char) : List Char :=
  ['.'].intercalate (((cs.flatMap fold).splitOn '.').map asciiLabel)

/-! ### Numbers -/

/-- A part of a number of four parts; a leading zero makes it octal, `0x` hexadecimal. -/
def partValue? (cs : List Char) : Option Nat :=
  match cs with
  | [] => none
  | '0' :: 'x' :: ds => based 16 ds
  | '0' :: 'X' :: ds => based 16 ds
  | '0' :: d :: ds => based 8 (d :: ds)
  | ds => based 10 ds
where
  based (base : Nat) (ds : List Char) : Option Nat :=
    ds.foldlM (fun n c => do
      let d ← Json.hexValue? c
      if d < base then some (n * base + d) else none) 0

/-- The parts of a name, an empty one at the end left out. -/
def numberParts (cs : List Char) : List (List Char) :=
  let parts := cs.splitOn '.'
  if 1 < parts.length ∧ parts.getLast? = some [] then parts.dropLast else parts

/-- Whether the last part of a name is a number. -/
def endsInNumber (cs : List Char) : Bool :=
  match (numberParts cs).getLast? with
  | some part => (part ≠ [] && part.all Char.isDigit) || (partValue? part).isSome
  | none => false

/-- The value of a number of up to four parts, of which the last fills all that is left. -/
def number4? (cs : List Char) : Option Nat := do
  let values ← (numberParts cs).mapM partValue?
  if values.length = 0 ∨ 4 < values.length then none
  else
    let init := values.dropLast
    let last := values.getLast?.getD 0
    if init.any (255 < ·) || Nat.pow 256 (4 - init.length) ≤ last then none
    else
      let high := init.foldl (fun n v => n * 256 + v) 0
      some (high * Nat.pow 256 (4 - init.length) + last)

/-- The written form of a number of four parts. -/
def text4 (n : Nat) : List Char :=
  ['.'].intercalate ([24, 16, 8, 0].map fun shift => Numeral.digits (n / Nat.pow 2 shift % 256))

/-- A part of a number of eight parts. -/
def group? (cs : List Char) : Option Nat :=
  if cs.length = 0 ∨ 4 < cs.length then none
  else cs.foldlM (fun n c => do return n * 16 + (← Json.hexValue? c)) 0

/-- A number of four parts that stands for the last two of eight. -/
def tail4? (cs : List Char) : Option (List Nat) := do
  let parts := cs.splitOn '.'
  if parts.length ≠ 4 then none
  else
    let values ← parts.mapM fun part =>
      if part = [] || !part.all Char.isDigit || (1 < part.length && part.head? = some '0') then none
      else if Numeral.value part ≤ 255 then some (Numeral.value part) else none
    match values with
    | [a, b, c, d] => some [a * 256 + b, c * 256 + d]
    | _ => none

/-- The parts between colons. -/
def groups? (cs : List Char) : Option (List Nat) :=
  if cs = [] then some []
  else do
    let parts := cs.splitOn ':'
    let init ← parts.dropLast.mapM group?
    let last := parts.getLast?.getD []
    match group? last with
    | some n => some (init ++ [n])
    | none => return init ++ (← tail4? last)

/-- What stands before and after the first two colons in a row. -/
def splitGap : List Char → Option (List Char × List Char)
  | ':' :: ':' :: rest => some ([], rest)
  | c :: rest => (splitGap rest).map fun (before, after) => (c :: before, after)
  | [] => none

/-- Reads a number of eight parts; two colons stand for as many zeros as are lacking. -/
def number8? (cs : List Char) : Option (List Nat) :=
  match splitGap cs with
  | some (before, after) => do
    let high ← groups? before
    let low ← groups? after
    let n := high.length + low.length
    if n ≤ 7 then some (high ++ List.replicate (8 - n) 0 ++ low) else none
  | none => do
    let groups ← groups? cs
    if groups.length = 8 then some groups else none

/-- The hexadecimal numeral of a part. -/
def groupText (n : Nat) : List Char := Nat.toDigits 16 n

/-- How many zeros stand at the front. -/
def zeros (groups : List Nat) : Nat := (groups.takeWhile (· = 0)).length

/-- The written form of a number of eight parts: the longest run of zeros, the first of several, is
left out if it has two or more. -/
def text8 (groups : List Nat) : List Char :=
  let runs := (List.range 8).map fun i => (i, zeros (groups.drop i))
  let (start, length) := runs.foldl (fun best run => if best.2 < run.2 then run else best) (0, 1)
  let written (gs : List Nat) : List Char := [':'].intercalate (gs.map groupText)
  if length < 2 then written groups
  else written (groups.take start) ++ "::".toList ++ written (groups.drop (start + length))

/-! ### Hosts -/

/-- The characters that stand in no host. -/
def isForbidden (c : Char) : Bool :=
  c.toNat = 0 || "\t\n\r #/:<>?@[\\]^|".toList.contains c

/-- The characters that stand in no name. -/
def isForbiddenInName (c : Char) : Bool :=
  isForbidden c || c.toNat < 0x20 || c.toNat = 0x7F || c = '%'

/-- The written form of a number of eight parts between brackets. -/
def bracketed? (cs : List Char) : Option String :=
  if cs.getLast? = some ']' then
    (number8? cs.dropLast).map fun groups => String.ofList ('[' :: text8 groups ++ [']'])
  else none

/-- The written form of a host of the web. -/
def ofText? (cs : List Char) : Option String :=
  match cs with
  | '[' :: rest => bracketed? rest
  | cs =>
    let name := asciiName (Utf8.lossyChars (Percent.decode cs))
    if name = [] || name.any isForbiddenInName then none
    else if endsInNumber name then (number4? name).map fun n => String.ofList (text4 n)
    else some (String.ofList name)

/-- The written form of a host of another kind of address: its characters as they are. -/
def opaque? (cs : List Char) : Option String :=
  match cs with
  | '[' :: rest => bracketed? rest
  | cs =>
    if cs.any isForbidden then none
    else some (String.ofList (Percent.encode (fun c => c.toNat < 0x20 || c.toNat = 0x7F) cs))

end Reminders.Host
