import Reminders.Json.Parser
import Reminders.Json.Printer
import Reminders.Store.Basic

/-!
The store as a text.

Every table is written as its last id and its rows, and a row as an array of its id and its cells. A
double is written by its bits, so that every value is found again.
-/

namespace Reminders

namespace Cell

/-- The JSON of a cell. -/
def toJson : Cell → Json
  | .null => .null
  | .integer n => .int n
  | .real x => .arr [.int x.toBits.toNat]
  | .text s => .str s

/-- The cell of a JSON value. -/
def ofJson? : Json → Option Cell
  | .null => some .null
  | .int n => some (.integer n)
  | .arr [.int bits] => some (.real (Float.ofBits (.ofNat bits.toNat)))
  | .str s => some (.text s)
  | _ => none

end Cell

namespace Table

/-- The JSON of a table. -/
def toJson [Columns κ] (t : Table κ) : Json :=
  .obj
    [("last_id", .int t.lastId),
      ("rows", .arr (t.rows.map fun r =>
        .arr (.int r.id :: (Columns.all : List κ).map fun k => (r.cell k).toJson)))]

/-- The row of a JSON value. -/
def rowOfJson? [DecidableEq κ] [Columns κ] : Json → Option (Row κ)
  | .arr (.int id :: cells) => do
    let columns : List κ := Columns.all
    if cells.length = columns.length then
      let cells ← cells.mapM Cell.ofJson?
      let known := columns.zip cells
      return ⟨id, fun k => (known.lookup k).getD .null⟩
    else none
  | _ => none

/-- The table of a JSON value. -/
def ofJson? [DecidableEq κ] [Columns κ] (v : Json) : Option (Table κ) :=
  match v.get? "last_id", v.get? "rows" with
  | some (.int lastId), some (.arr rows) => do ofRows? (← rows.mapM rowOfJson?) lastId
  | _, _ => none

end Table

namespace Store

/-- The JSON of a store. -/
def toJson (s : Store) : Json :=
  .obj
    [("users", s.users.toJson), ("subscriptions", s.subscriptions.toJson),
      ("policies", s.policies.toJson), ("channels", s.channels.toJson), ("logs", s.logs.toJson)]

/-- The store of a JSON value. -/
def ofJson? (v : Json) : Option Store := do
  return ⟨← (← v.get? "users") |> Table.ofJson?, ← (← v.get? "subscriptions") |> Table.ofJson?,
    ← (← v.get? "policies") |> Table.ofJson?, ← (← v.get? "channels") |> Table.ofJson?,
    ← (← v.get? "logs") |> Table.ofJson?⟩

/-- The text of a store. -/
def toText (s : Store) : String := s.toJson.toText

/-- The store of a text. An empty text is a store without rows. -/
def ofText? (text : String) : Option Store :=
  if text = "" then some .empty else (Json.parse? text).bind ofJson?

end Store

end Reminders
