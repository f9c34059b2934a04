import Reminders.Decimal.Layout
import Reminders.Json.Parser
import Reminders.Text.Blank
import Reminders.Text.Width

/-!
Stored values.

A cell holds nothing, an integer, a double or a text. A column has an affinity: the kind of value it
prefers. Storing a value converts it to that kind when nothing is lost, so a text that is a numeral
becomes a number in a column of numbers and a number becomes its numeral in a column of text. Reading
asks for one kind and refuses the others.
-/

namespace Reminders

/-- A stored value. Octets that are no text can be stored in any column, too. The program stores none,
and overwrites from outside that would are left out. -/
inductive Cell where
  | null
  | integer (value : Int)
  | real (value : Float)
  | text (value : String)

/-- The kind of value that a column prefers. -/
inductive Affinity where
  | text | integer | real
deriving DecidableEq

/-- Why the tables refuse a write or a read. -/
inductive TableFault where
  /-- A column that must hold a value would hold none. -/
  | notNull (column : String)
  /-- Another row has the same values in these columns. -/
  | notUnique (columns : List String)
  /-- A row refers to a user who does not exist. -/
  | foreignKey
  /-- A column holds a value of the wrong kind. -/
  | wrongKind (found : String) (index : Nat) (name : String)
  /-- A column holds an integer that is out of range. -/
  | outOfRange (value : Int) (index : Nat)
  /-- The file does not hold tables. -/
  | notTables
  /-- The file cannot be opened. -/
  | cannotOpen (path : String)
deriving DecidableEq

/-- The wording of a fault. -/
def TableFault.message : TableFault → String
  | notNull column => "NOT NULL constraint failed: " ++ column
  | notUnique columns => "UNIQUE constraint failed: " ++ String.intercalate ", " columns
  | foreignKey => "FOREIGN KEY constraint failed"
  | wrongKind found index name =>
    "Invalid column type " ++ found ++ " at index: " ++ Numeral.ofNat index ++ ", name: " ++ name
  | outOfRange value index =>
    "Integer " ++ Numeral.ofInt value ++ " out of range at index " ++ Numeral.ofNat index
  | notTables => "file is not a database"
  | cannotOpen path => "unable to open database file: " ++ path

namespace Cell

/-- The kind of a cell. -/
def kind : Cell → String
  | .null => "Null"
  | .integer _ => "Integer"
  | .real _ => "Real"
  | .text _ => "Text"

/-- A double that is exactly an integer becomes that integer, the two ends of the range excepted. -/
def ofFloat (x : Float) : Cell :=
  match Binary.ofFloat x with
  | .nan => .null
  | .infinite _ => .real x
  | .finite negative mantissa exponent =>
    let r := Ratio.shift2 mantissa exponent
    let n : Int := if negative then -(r.num / r.den : Nat) else (r.num / r.den : Nat)
    if r.num % r.den = 0 ∧ Width.minInt64 < n ∧ n < Width.maxInt64 then .integer n else .real x

/-- Reads the sign and the digits of a numeral. -/
def integerText? (cs : List Char) : Option Int :=
  let (negative, ds) := match cs with
    | '-' :: rest => (true, rest)
    | '+' :: rest => (false, rest)
    | ds => (false, ds)
  if ds ≠ [] ∧ ds.all Numeral.isDigit then
    let n : Int := if negative then -(Numeral.value ds : Int) else Numeral.value ds
    if Width.IsInt64 n then some n else none
  else none

/-- Reads a numeral with a fraction or an exponent; digits must stand on one side of the point. -/
def realText? (cs : List Char) : Option Float := do
  let (negative, cs) := match cs with
    | '-' :: rest => (true, rest)
    | '+' :: rest => (false, rest)
    | cs => (false, cs)
  let whole := cs.takeWhile Numeral.isDigit
  let rest := cs.drop whole.length
  let (places, rest) := match rest with
    | '.' :: rest => (rest.takeWhile Numeral.isDigit, rest.dropWhile Numeral.isDigit)
    | rest => ([], rest)
  if whole = [] ∧ places = [] then none
  else
    let (exponent, rest) ← Json.exponent? rest
    if rest ≠ [] then none
    else
      let digits := Numeral.value (whole ++ places)
      let scale : Int := exponent.getD 0 - places.length
      match Json.decimalFloat? negative digits scale with
      | some x => some x
      | none => some (if negative then -1.0 / 0.0 else 1.0 / 0.0)

/-- The blanks that may stand around a numeral. -/
def isPadding (c : Char) : Bool := c == ' ' || ('\t' ≤ c && c ≤ '\r')

/-- The number that a text denotes, if the whole text is a numeral. -/
def number? (s : String) : Option Cell :=
  let cs := Text.stripChars isPadding s.toList
  match integerText? cs with
  | some n => some (.integer n)
  | none => (realText? cs).map ofFloat

/-- The significant digits of a double that becomes a text. -/
def realDigits : Nat := 15

/-- The value as a column of this affinity stores it. -/
def store : Affinity → Cell → Cell
  | .text, .integer n => .text (Numeral.ofInt n)
  | .text, .real x => .text (Decimal.significantText realDigits x)
  | .text, c => c
  | .integer, .real x => ofFloat x
  | .integer, .text s => (number? s).getD (.text s)
  | .integer, c => c
  | .real, .integer n => .real (Float.ofInt n)
  | .real, .real x => asReal (ofFloat x)
  | .real, .text s => ((number? s).map asReal).getD (.text s)
  | .real, c => c
where
  /-- A number as a double. -/
  asReal : Cell → Cell
    | .integer n => .real (Float.ofInt n)
    | c => c

/-! ### Reading -/

/-- Where a value was read: the place of its column in the query, and the column's name. -/
structure Place where
  index : Nat
  name : String

/-- The cell is of another kind than asked for. -/
def refuse (c : Cell) (place : Place) : Except TableFault α :=
  .error (.wrongKind c.kind place.index place.name)

def readInt (place : Place) : Cell → Except TableFault Int
  | .integer n => .ok n
  | c => c.refuse place

def readReal (place : Place) : Cell → Except TableFault Float
  | .real x => .ok x
  | .integer n => .ok (Float.ofInt n)
  | c => c.refuse place

def readText (place : Place) : Cell → Except TableFault String
  | .text s => .ok s
  | c => c.refuse place

/-- Any integer but zero is true. -/
def readBool (place : Place) : Cell → Except TableFault Bool
  | .integer n => .ok (n ≠ 0)
  | c => c.refuse place

def readOption (read : Cell → Except TableFault α) : Cell → Except TableFault (Option α)
  | .null => .ok none
  | c => (read c).map some

/-- An integer of 32 bits; one out of range is a fault. -/
def readWord (place : Place) (c : Cell) : Except TableFault UInt32 := do
  let n ← readInt place c
  if 0 ≤ n ∧ n ≤ Width.maxWord32 then return UInt32.ofNat n.toNat else throw (.outOfRange n place.index)

/-- An optional integer of 32 bits; one out of range reads as none. -/
def readWord? (place : Place) (c : Cell) : Except TableFault (Option UInt32) := do
  let n ← readOption (readInt place) c
  return n.bind fun n => if 0 ≤ n ∧ n ≤ Width.maxWord32 then some (UInt32.ofNat n.toNat) else none

/-! ### Writing -/

def ofBool (b : Bool) : Cell := .integer (if b then 1 else 0)

def ofWord (n : UInt32) : Cell := .integer n.toNat

def ofOption (cell : α → Cell) : Option α → Cell
  | some a => cell a
  | none => .null

/-- The cell holds this integer. -/
def IsInt (c : Cell) (n : Int) : Prop :=
  match c with
  | .integer m => m = n
  | _ => False

/-- The cell holds this text. -/
def IsText (c : Cell) (s : String) : Prop :=
  match c with
  | .text t => t = s
  | _ => False

instance (c : Cell) (n : Int) : Decidable (c.IsInt n) := by
  unfold IsInt; split <;> infer_instance

instance (c : Cell) (s : String) : Decidable (c.IsText s) := by
  unfold IsText; split <;> infer_instance

/-- The cell holds nothing. -/
def IsNull (c : Cell) : Prop :=
  match c with
  | .null => True
  | _ => False

instance (c : Cell) : Decidable c.IsNull := by
  unfold IsNull; split <;> infer_instance

end Cell

end Reminders
