import Reminders.Store.Cell

/-!
Tables.

A table is a list of rows in the order of their ids, which are all different, each with a cell for
every column. Ids are given out in ascending order and never twice: `Table.insert` takes the one
after the largest id that a row ever had, also when that row is gone.
-/

namespace Reminders

/-- The columns of a table, in their declared order. -/
class Columns (κ : Type) where
  /-- The name of the table. -/
  table : String
  all : List κ
  name : κ → String
  affinity : κ → Affinity
  /-- The column must hold a value. -/
  required : κ → Bool

/-- A column with the name of its table. -/
def Columns.fullName [Columns κ] (k : κ) : String :=
  Columns.table κ ++ "." ++ Columns.name k

/-- A row of a table. -/
structure Row (κ : Type) where
  id : Int
  cell : κ → Cell

/-- The row with another value in one column. -/
def Row.set [DecidableEq κ] (r : Row κ) (k : κ) (c : Cell) : Row κ :=
  { r with cell := fun j => if j = k then c else r.cell j }

/-- A table. -/
structure Table (κ : Type) where
  rows : List (Row κ)
  /-- The largest id that a row ever had. -/
  lastId : Int
  /-- The rows stand in the order of their ids, which are all different. -/
  ascending : rows.Pairwise (·.id < ·.id)
  le_lastId : ∀ r ∈ rows, r.id ≤ lastId

namespace Table

/-- The table without rows. -/
def empty : Table κ := ⟨[], 0, .nil, by simp⟩

/-- The row with an id. -/
def find? (t : Table κ) (id : Int) : Option (Row κ) := t.rows.find? (·.id = id)

/-- The values as the columns store them. -/
def stored [Columns κ] (cells : κ → Cell) (k : κ) : Cell :=
  Cell.store (Columns.affinity k) (cells k)

/-- The first column that must hold a value and holds none. -/
def missing? [Columns κ] (cells : κ → Cell) : Option κ :=
  (Columns.all : List κ).find? fun k => Columns.required k && decide (cells k).IsNull

/-- Refuses a row that lacks a value. -/
def checkRequired [Columns κ] (cells : κ → Cell) : Except TableFault Unit :=
  match missing? cells with
  | some k => .error (.notNull (Columns.fullName k))
  | none => .ok ()

/-- The id that the next row gets. -/
def nextId (t : Table κ) : Int := t.lastId + 1

theorem lt_nextId {t : Table κ} {r : Row κ} (h : r ∈ t.rows) : r.id < t.nextId :=
  Int.lt_add_one_of_le (t.le_lastId r h)

/-- Adds a row, and gives out its id. -/
def insert (t : Table κ) (cells : κ → Cell) : Table κ where
  rows := t.rows ++ [⟨t.nextId, cells⟩]
  lastId := t.nextId
  ascending := by
    refine List.pairwise_append.mpr ⟨t.ascending, List.pairwise_singleton _ _, fun a ha b hb => ?_⟩
    rw [List.mem_singleton.mp hb]
    exact lt_nextId ha
  le_lastId r h := by
    rcases List.mem_append.mp h with h | h
    · exact Int.le_of_lt (lt_nextId h)
    · exact Int.le_of_eq (congrArg Row.id (List.mem_singleton.mp h))

/-- Puts a row into its place by id; a row of the same id gives way. -/
def insertRow (row : Row κ) : List (Row κ) → List (Row κ)
  | [] => [row]
  | r :: rest =>
    if row.id < r.id then row :: r :: rest
    else if row.id = r.id then row :: rest
    else r :: insertRow row rest

theorem mem_insertRow {row a : Row κ} {rows : List (Row κ)} (h : a ∈ insertRow row rows) :
    a = row ∨ a ∈ rows := by
  induction rows with
  | nil => exact .inl (List.mem_singleton.mp h)
  | cons r rest ih =>
    unfold insertRow at h
    split at h
    · exact List.mem_cons.mp h
    · split at h
      · exact (List.mem_cons.mp h).imp_right (List.mem_cons_of_mem _)
      · rcases List.mem_cons.mp h with rfl | h
        · exact .inr List.mem_cons_self
        · exact (ih h).imp_right (List.mem_cons_of_mem _)

theorem ascending_insertRow (row : Row κ) {rows : List (Row κ)}
    (h : rows.Pairwise (·.id < ·.id)) : (insertRow row rows).Pairwise (·.id < ·.id) := by
  induction rows with
  | nil => exact List.pairwise_singleton _ _
  | cons r rest ih =>
    obtain ⟨first, later⟩ := List.pairwise_cons.mp h
    unfold insertRow
    split
    · rename_i lt
      refine List.pairwise_cons.mpr ⟨fun a ha => ?_, h⟩
      rcases List.mem_cons.mp ha with rfl | ha
      · exact lt
      · exact Int.lt_trans lt (first a ha)
    · split
      · rename_i eq
        exact List.pairwise_cons.mpr ⟨fun a ha => eq ▸ first a ha, later⟩
      · refine List.pairwise_cons.mpr ⟨fun a ha => ?_, ih later⟩
        rcases mem_insertRow ha with rfl | ha
        · omega
        · exact first a ha

/-- Adds a row under an id of the caller's; a row of the same id gives way. -/
def insertAt (t : Table κ) (id : Int) (cells : κ → Cell) : Table κ where
  rows := insertRow ⟨id, cells⟩ t.rows
  lastId := max t.lastId id
  ascending := ascending_insertRow _ t.ascending
  le_lastId r h := by
    rcases mem_insertRow h with rfl | h
    · exact Int.le_max_right _ _
    · exact Int.le_trans (t.le_lastId r h) (Int.le_max_left _ _)

/-- Changes the cells of the row with an id. -/
def modify (t : Table κ) (id : Int) (change : Row κ → κ → Cell) : Table κ where
  rows := t.rows.map fun r => if r.id = id then { r with cell := change r } else r
  lastId := t.lastId
  ascending := by
    refine List.pairwise_map.mpr (t.ascending.imp fun {a b} h => ?_)
    split <;> split <;> exact h
  le_lastId r h := by
    obtain ⟨a, ha, rfl⟩ := List.mem_map.mp h
    split <;> exact t.le_lastId a ha

/-- Puts a value into a column of the row with an id. -/
def set [DecidableEq κ] (t : Table κ) (id : Int) (k : κ) (c : Cell) : Table κ :=
  t.modify id fun r => (r.set k c).cell

/-- The table without the rows that satisfy a condition. -/
def eraseWhere (t : Table κ) (p : Row κ → Bool) : Table κ where
  rows := t.rows.filter fun r => !p r
  lastId := t.lastId
  ascending := t.ascending.filter _
  le_lastId r h := t.le_lastId r (List.mem_filter.mp h).1

/-- The table of rows in the order of their ids, none of which is larger than the largest. -/
def ofRows? (rows : List (Row κ)) (lastId : Int) : Option (Table κ) :=
  if h : rows.Pairwise (·.id < ·.id) ∧ ∀ r ∈ rows, r.id ≤ lastId then
    some ⟨rows, lastId, h.1, h.2⟩
  else none

end Table

end Reminders
