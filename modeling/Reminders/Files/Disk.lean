import Reminders.Files.Basic

/-!
A disk.

A disk is a list of places, each known by the names that lead to it from the root: a directory, or a
file with its text. `Disk.files` gives the operations on files over such a disk.
-/

namespace Reminders

/-- What stands at a place. -/
inductive Place where
  | directory
  | file (text : String)
deriving DecidableEq

/-- The places of a disk besides the root. -/
structure Disk where
  places : List (List String × Place)

namespace Disk

/-- What stands at a place. -/
def place? (d : Disk) (names : List String) : Option Place :=
  if names = [] then some .directory else d.places.lookup names

/-- Follows the names of a path from a place: a name must lie in a directory, and two points lead
back. -/
def walk (d : Disk) (reached : List String) : List String → Except FileError (List String)
  | [] => .ok reached
  | name :: rest =>
    match d.place? reached with
    | none => .error .notFound
    | some (.file _) => .error .notDirectory
    | some .directory =>
      if name = ".." then d.walk reached.dropLast rest else d.walk (reached ++ [name]) rest

/-- Where a path leads to; there need not be anything. -/
def locate (d : Disk) (working : List String) (path : String) : Except FileError (List String) :=
  if path = "" then .error .notFound
  else d.walk (if Path.isAbsolute path then [] else working) (Path.names path)

/-- What stands at a path. -/
def at? (d : Disk) (working : List String) (path : String) : Except FileError Place := do
  let names ← d.locate working path
  match d.place? names with
  | none => throw .notFound
  | some (.file text) => if Path.isDirectory path then throw .notDirectory else return .file text
  | some .directory => return .directory

/-- Puts something at a place. -/
def put (d : Disk) (names : List String) (p : Place) : Disk :=
  ⟨(names, p) :: d.places.filter fun place => place.1 ≠ names⟩

/-- Reads a file. -/
def read (d : Disk) (working : List String) (path : String) : Except FileError String := do
  match ← d.at? working path with
  | .file text => return text
  | .directory => throw .isDirectory

/-- Puts a text into a file. -/
def write (d : Disk) (working : List String) (path text : String) : Except FileError Disk := do
  let names ← d.locate working path
  match d.place? names with
  | some .directory => throw .isDirectory
  | some (.file _) =>
    if Path.isDirectory path then throw .notDirectory else return d.put names (.file text)
  | none => if Path.isDirectory path then throw .isDirectory else return d.put names (.file text)

/-- Makes the directories that the rest of the names lead through. -/
def makeAll (d : Disk) (reached : List String) : List String → Except FileError Disk
  | [] => .ok d
  | name :: rest =>
    let next := if name = ".." then reached.dropLast else reached ++ [name]
    match d.place? next with
    | none => (d.put next .directory).makeAll next rest
    | some .directory => d.makeAll next rest
    | some (.file _) => .error (if rest = [] then .exists else .notDirectory)

/-- Makes a directory and those that it lies in. -/
def makeDirectories (d : Disk) (working : List String) (path : String) : Except FileError Disk :=
  if path = "" then .ok d
  else d.makeAll (if Path.isAbsolute path then [] else working) (Path.names path)

/-- The operations on the files of a disk. -/
def files (home : String) : Files (StateM Disk) :=
  let working := Path.names home
  let change (result : Disk → Except FileError Disk) : StateM Disk (Except FileError Unit) := do
    match result (← get) with
    | .ok d => set d; return .ok ()
    | .error e => return .error e
  { home
    isThere := fun path => do return ((← get).at? working path).isOk
    read := fun path => do return (← get).read working path
    makeDirectories := fun path => change (·.makeDirectories working path)
    write := fun path text => change (·.write working path text) }

end Disk

end Reminders
