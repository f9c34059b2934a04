import Reminders.Calendar.InstantText
import Reminders.Decimal.Layout
import Reminders.Json.Value
import Reminders.Text.Quoted
import Reminders.Text.Width

/-!
Decoding JSON values.

A decoder takes a value or says why it cannot. Records are decoded by a `Shape`: the fields of the
record in their declared order, each with a decoder and a rule for its absence. A record is written
either as an object, whose members are checked in the order in which they stand and whose other
members are ignored, or as an array of its fields.
-/

namespace Reminders

/-- Why a JSON value was refused. -/
inductive DecodeError where
  /-- The value is of another kind than expected. -/
  | wrongType (found expected : String)
  /-- The value is of the right kind and not allowed. -/
  | wrongValue (found expected : String)
  /-- An array has another length than expected. -/
  | wrongLength (length : Nat) (expected : String)
  /-- There is no such tag among those expected. -/
  | unknownVariant (tag : String) (expected : List String)
  /-- A member of an object is missing. -/
  | missingField (name : String)
  /-- The string is not a date or a time. -/
  | badDate (error : DateTextError)
deriving DecidableEq

namespace DecodeError

/-- A name between backward quotes. -/
def ticked (s : String) : String := "\x60" ++ s ++ "\x60"

/-- A choice of tags. -/
def oneOf : List String → String
  | [a, b] => ticked a ++ " or " ++ ticked b
  | tags => "one of " ++ String.intercalate ", " (tags.map ticked)

/-- The wording of an error. -/
def message : DecodeError → String
  | wrongType found expected => "invalid type: " ++ found ++ ", expected " ++ expected
  | wrongValue found expected => "invalid value: " ++ found ++ ", expected " ++ expected
  | wrongLength length expected =>
    "invalid length " ++ Numeral.ofNat length ++ ", expected " ++ expected
  | unknownVariant tag expected =>
    "unknown variant " ++ ticked tag ++ ", expected " ++ oneOf expected
  | missingField name => "missing field " ++ ticked name
  | badDate error => error.message

end DecodeError

/-- Takes a value of a type from JSON. -/
abbrev Decoder (α : Type) := Json → Except DecodeError α

namespace Json

/-- A value as an error names it. -/
def describe : Json → String
  | .null => "null"
  | .bool b => "boolean " ++ DecodeError.ticked (if b then "true" else "false")
  | .int n => "integer " ++ DecodeError.ticked (Numeral.ofInt n)
  | .float x => "floating point " ++ DecodeError.ticked (Decimal.shortestText x)
  | .str s => "string " ++ Text.quoted s
  | .arr _ => "sequence"
  | .obj _ => "map"

/-- The value is of another kind than expected. -/
def refuse (v : Json) (expected : String) : Except DecodeError α :=
  .error (.wrongType v.describe expected)

/-- An integer between two bounds. -/
def decodeInt (expected : String) (low high : Int) : Decoder Int
  | .int n =>
    if low ≤ n ∧ n ≤ high then .ok n
    else .error (.wrongValue (describe (.int n)) expected)
  | v => v.refuse expected

def decodeInt64 : Decoder Int := decodeInt "i64" Width.minInt64 Width.maxInt64

def decodeInt32 : Decoder Int := decodeInt "i32" Width.minInt32 Width.maxInt32

def decodeWord8 : Decoder UInt8 := fun v => (decodeInt "u8" 0 Width.maxWord8 v).map (UInt8.ofNat ·.toNat)

def decodeWord16 : Decoder UInt16 := fun v =>
  (decodeInt "u16" 0 Width.maxWord16 v).map (UInt16.ofNat ·.toNat)

def decodeWord32 : Decoder UInt32 := fun v =>
  (decodeInt "u32" 0 Width.maxWord32 v).map (UInt32.ofNat ·.toNat)

def decodeWord64 : Decoder UInt64 := fun v =>
  (decodeInt "u64" 0 Width.maxWord64 v).map (UInt64.ofNat ·.toNat)

/-- A count, of 64 bits. -/
def decodeCount : Decoder UInt64 := fun v =>
  (decodeInt "usize" 0 Width.maxWord64 v).map (UInt64.ofNat ·.toNat)

/-- A double; an integer stands for the double nearest to it. -/
def decodeFloat : Decoder Float
  | .float x => .ok x
  | .int n => .ok (Float.ofInt n)
  | v => v.refuse "f64"

def decodeBool : Decoder Bool
  | .bool b => .ok b
  | v => v.refuse "a boolean"

def decodeString : Decoder String
  | .str s => .ok s
  | v => v.refuse "a string"

/-- Any value. -/
def decodeAny : Decoder Json := .ok

/-- A value, or null for none. -/
def decodeOption (decoder : Decoder α) : Decoder (Option α)
  | .null => .ok none
  | v => (decoder v).map some

def decodeDate : Decoder Date
  | .str s => (Date.parse s).mapError .badDate
  | v => v.refuse "a formatted date string"

def decodeInstant : Decoder Instant
  | .str s => (Instant.parse s).mapError .badDate
  | v => v.refuse "an RFC 3339 formatted date and time string"

/-- The value of a tag. -/
def decodeTagName (tags : List (String × α)) (name : String) : Except DecodeError α :=
  match tags.lookup name with
  | some a => .ok a
  | none => .error (.unknownVariant name (tags.map Prod.fst))

/-- One of some tagged values: a string, or an object whose only member has the tag for its name and
null for its value. -/
def decodeTag (tags : List (String × α)) : Decoder α
  | .str s => decodeTagName tags s
  | .obj [(name, content)] => do
    let a ← decodeTagName tags name
    match content with
    | .null => .ok a
    | v => v.refuse "unit"
  | .obj _ => .error (.wrongValue "map" "map with a single key")
  | v => v.refuse "string or map"

/-- An object whose members are all strings. -/
def decodeStringMap : Decoder (List (String × String))
  | .obj members => members.mapM fun (name, v) => do return (name, ← decodeString v)
  | v => v.refuse "a map"

end Json

/-- The fields of a record in their declared order. -/
structure Shape (α : Type) where
  /-- The names of the fields, each with a check of its value. -/
  fields : List (String × (Json → Except DecodeError Unit))
  /-- The record of the members of an object. -/
  ofMembers : List (String × Json) → Except DecodeError α
  /-- The record of the items of an array, from a position on; too short an array is refused as not
  being what was expected. -/
  ofItems : (expected : String) → (position : Nat) → List Json → Except DecodeError α

namespace Shape

/-- The record without fields. -/
def pure (a : α) : Shape α := ⟨[], fun _ => .ok a, fun _ _ _ => .ok a⟩

/-- The fields of two records, one after the other. -/
def seq (f : Shape (α → β)) (x : Shape α) : Shape β where
  fields := f.fields ++ x.fields
  ofMembers members := do return (← f.ofMembers members) (← x.ofMembers members)
  ofItems expected position items := do
    return (← f.ofItems expected position items)
      (← x.ofItems expected (position + f.fields.length) (items.drop f.fields.length))

instance : Applicative Shape where
  pure := Shape.pure
  seq f x := Shape.seq f (x ())

/-- A field. When an object lacks it, or an array is too short for it, it takes the value given for
that, if there is one. -/
def field (name : String) (decoder : Decoder α) (absent absentItem : Option α) : Shape α where
  fields := [(name, fun v => (decoder v).map fun _ => ())]
  ofMembers members :=
    match Json.member? members name with
    | some v => decoder v
    | none => match absent with
      | some a => .ok a
      | none => .error (.missingField name)
  ofItems expected position
    | v :: _ => decoder v
    | [] => match absentItem with
      | some a => .ok a
      | none => .error (.wrongLength position expected)

/-- A field that must be there. -/
def required (name : String) (decoder : Decoder α) : Shape α := field name decoder none none

/-- A field that an object may leave out. -/
def optional (name : String) (decoder : Decoder α) : Shape (Option α) :=
  field name (Json.decodeOption decoder) (some none) none

/-- A field that takes a value of its own when it is left out. -/
def defaulted (name : String) (decoder : Decoder α) (value : α) : Shape α :=
  field name decoder (some value) (some value)

/-- Checks the members of an object in the order in which they stand. -/
def checkMembers (shape : Shape α) (members : List (String × Json)) : Except DecodeError Unit :=
  members.forM fun (name, v) =>
    match shape.fields.lookup name with
    | some check => check v
    | none => .ok ()

/-- How many fields an array must have. -/
def lengthText (name : String) (fields : Nat) : String :=
  name ++ " with " ++ Numeral.ofNat fields ++ (if fields = 1 then " element" else " elements")

/-- The decoder of a record. -/
def decode (shape : Shape α) (name : String) : Decoder α
  | .obj members => do
    shape.checkMembers members
    shape.ofMembers members
  | .arr items => do
    let a ← shape.ofItems (lengthText name shape.fields.length) 0 items
    if shape.fields.length < items.length then
      throw (.wrongLength items.length "fewer elements in array")
    return a
  | v => v.refuse name

end Shape

end Reminders
