import Reminders.Json.Value

/-!
TOML values.

A table remembers how it came to be, because that decides what may still be added to it: a table
that was only passed through by a header may get a header of its own, one made by a dotted key may be
extended by other dotted keys, and one that had its header or was written inline is complete.
-/

namespace Reminders

/-- How a table came to be. -/
inductive TableOrigin where
  /-- A header passed through it. -/
  | passed
  /-- It had a header of its own. -/
  | header
  /-- A dotted key passed through it. -/
  | dotted
  /-- It was written inline. -/
  | inline
deriving DecidableEq

/-- A TOML value. -/
inductive Toml where
  | str (value : String)
  | int (value : Int)
  | float (text : String)
  | bool (value : Bool)
  | time (text : String)
  | arr (items : List Toml)
  | table (origin : TableOrigin) (entries : List (String × Toml))
  /-- Tables that share a header, each with its entries. -/
  | tables (items : List (List (String × Toml)))

namespace Toml

/-- The entries of a table. -/
abbrev Entries := List (String × Toml)

/-- The value of a key. -/
def find? (entries : Entries) (key : String) : Option Toml := entries.lookup key

/-- Puts a value under a key, in the place of the one that is there. -/
def putEntry (key : String) (value : Toml) : Entries → Entries
  | [] => [(key, value)]
  | (k, v) :: rest => if k = key then (k, value) :: rest else (k, v) :: putEntry key value rest

/-- Changes the last of some tables. -/
def changeLast (change : Entries → Option Entries) : List Entries → Option (List Entries)
  | [] => none
  | [last] => do return [← change last]
  | first :: rest => do return first :: (← changeLast change rest)

/-- Adds a value under a dotted key. A table that the key passes through is made, unless there is one
that may be extended; the table that gets the value must have been made by a dotted key. -/
def insertDotted (value : Toml) (key : String) : List String → Entries → Option Entries
  | [], entries =>
    match find? entries key with
    | some _ => none
    | none => some (putEntry key value entries)
  | next :: path, entries =>
    match find? entries key with
    | none => do
      let made ← insertDotted value next path []
      return putEntry key (.table .dotted made) entries
    | some (.table .dotted inner) => do
      return putEntry key (.table .dotted (← insertDotted value next path inner)) entries
    | some (.table .passed inner) =>
      if path = [] then none
      else do return putEntry key (.table .passed (← insertDotted value next path inner)) entries
    | some (.tables items) =>
      if path = [] then none
      else do return putEntry key (.tables (← changeLast (insertDotted value next path) items)) entries
    | some _ => none

/-- Changes the entries of the table at the end of a path of headers. Tables that are not there are
made; of tables that share a header the last is meant. -/
def changeAt (change : Entries → Option Entries) : List String → Entries → Option Entries
  | [], entries => change entries
  | key :: path, entries =>
    match find? entries key with
    | none => do return putEntry key (.table .passed (← changeAt change path [])) entries
    | some (.table .inline _) => none
    | some (.table origin inner) => do
      return putEntry key (.table origin (← changeAt change path inner)) entries
    | some (.tables items) => do
      return putEntry key (.tables (← changeLast (changeAt change path) items)) entries
    | some _ => none

/-- Opens the table of a header. -/
def openTable (key : String) (entries : Entries) : Option Entries :=
  match find? entries key with
  | none => some (putEntry key (.table .header []) entries)
  | some (.table .passed inner) => some (putEntry key (.table .header inner) entries)
  | some _ => none

/-- Opens one more of the tables that share a header. -/
def openNext (key : String) (entries : Entries) : Option Entries :=
  match find? entries key with
  | none => some (putEntry key (.tables [[]]) entries)
  | some (.tables items) => some (putEntry key (.tables (items ++ [[]])) entries)
  | some _ => none

end Toml

end Reminders
