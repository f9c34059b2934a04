import Reminders.Text.Numeral
import Reminders.Text.Width

/-!
JSON values.

An object is a list of members. Reading a text gives members in the order of their names, each name
once; a value that the program composes may list its members in an order of its own. `Json.object`
puts members into the order of their names.
-/

namespace Reminders

/-- A JSON value. Numbers without a fraction and an exponent are integers while they fit in 64 bits,
signed or unsigned, and doubles otherwise. -/
inductive Json where
  | null
  | bool (value : Bool)
  | int (value : Int)
  | float (value : Float)
  | str (value : String)
  | arr (items : List Json)
  | obj (members : List (String × Json))

namespace Json

/-- Puts a member into its place by name; a member of the same name gives way. -/
def insertMember (name : String) (value : Json) : List (String × Json) → List (String × Json)
  | [] => [(name, value)]
  | (n, v) :: rest =>
    if name < n then (name, value) :: (n, v) :: rest
    else if name = n then (name, value) :: rest
    else (n, v) :: insertMember name value rest

/-- The object with these members, in the order of their names. Of two members with one name the
later counts. -/
def object (members : List (String × Json)) : Json :=
  .obj (members.foldl (fun sorted (name, value) => insertMember name value sorted) [])

/-- The value of a member. -/
def member? (members : List (String × Json)) (name : String) : Option Json :=
  members.lookup name

/-- The value of a member of an object; there is none in a value of another kind. -/
def get? (name : String) : Json → Option Json
  | .obj members => member? members name
  | _ => none

/-- The text of a string value. -/
def str? : Json → Option String
  | .str s => some s
  | _ => none

/-- An integer that fits in 64 bits with a sign. -/
def int64? : Json → Option Int
  | .int n => if Width.IsInt64 n then some n else none
  | _ => none

/-- An optional value, absent as null. -/
def ofOption (encode : α → Json) : Option α → Json
  | some a => encode a
  | none => .null

/-- A string, or null. -/
def ofText? (s : Option String) : Json := ofOption .str s

/-- A number of at most 32 bits, or null. -/
def ofWord? (n : Option UInt32) : Json := ofOption (fun n => .int n.toNat) n

end Json

end Reminders
