import Reminders.Failure
import Reminders.Files.Basic
import Reminders.Store.Text

/-!
The store's file.

A store is opened by the path of its file, which is made when it is not there. A store with an empty
path, or with the name of memory in place of a path, has no file.
-/

namespace Reminders.Store

variable {m : Type → Type} [Monad m]

/-- Whether a path names a store without a file. -/
def IsTransient (path : String) : Prop := path = "" ∨ path = ":memory:"

instance (path : String) : Decidable (IsTransient path) := inferInstanceAs (Decidable (_ ∨ _))

/-- The file cannot be opened. -/
def cannotOpen (path : String) : Failure := .database (.fault "DB open" (.cannotOpen path))

/-- Keeps a store in its file. -/
def keep (files : Files m) (path : String) (s : Store) : m (Except Failure Unit) := do
  if IsTransient path then return .ok ()
  else return (← files.write path s.toText).mapError fun _ => cannotOpen path

/-- The store in a file, or one without rows if the file is not there. -/
def inFile (files : Files m) (path : String) : m (Except Failure Store) := do
  match ← files.read path with
  | .ok text =>
    match ofText? text with
    | some s => return .ok s
    | none => return .error (.database (.fault "Migration" .notTables))
  | .error .notFound => return .ok .empty
  | .error .notText => return .error (.database (.fault "Migration" .notTables))
  | .error _ => return .error (cannotOpen path)

/-- Opens the store in a file and makes the directories that it lies in. -/
def openAt (files : Files m) (path : String) : m (Except Failure Store) := do
  let made ← match Path.parent? path with
    | some directory => files.makeDirectories directory
    | none => pure (.ok ())
  match made with
  | .error e => return .error (.file e)
  | .ok () =>
    if IsTransient path then return .ok .empty
    else match ← inFile files path with
      | .error e => return .error e
      | .ok s => return (← keep files path s).map fun () => s

end Reminders.Store
