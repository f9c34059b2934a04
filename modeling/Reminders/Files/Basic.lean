import Reminders.Config.Basic

/-!
Reaching files.

What the program does with files it does by four operations, given as a record, so that it runs on a
real disk as well as on a model of one. A path is a text; one that does not begin with a slash is
taken from the working directory.
-/

namespace Reminders

/-- The operations on files, with the effects of a monad. -/
structure Files (m : Type → Type) where
  /-- The path of the user's home directory. -/
  home : String
  /-- Whether there is a file or a directory at a path. -/
  isThere : String → m Bool
  read : String → m (Except FileError String)
  /-- Makes a directory and those that it lies in. -/
  makeDirectories : String → m (Except FileError Unit)
  /-- Puts a text into a file, in place of what it held. -/
  write : String → String → m (Except FileError Unit)

namespace Path

/-- A path with a name in it. -/
def join (directory name : String) : String :=
  if directory.toList.getLast? = some '/' then directory ++ name else directory ++ "/" ++ name

/-- A path that may begin with a tilde for the home directory. -/
def expand (home path : String) : String :=
  match path.toList with
  | ['~'] => home
  | '~' :: '/' :: rest => home ++ String.ofList ('/' :: rest)
  | _ => path

/-- The names that a path leads through. -/
def names (path : String) : List String :=
  ((path.toList.splitOn '/').map String.ofList).filter fun name => name ≠ "" && name ≠ "."

/-- Whether a path begins at the root. -/
def isAbsolute (path : String) : Bool := path.toList.head? = some '/'

/-- Whether a path ends in a slash, so that only a directory can be meant. -/
def isDirectory (path : String) : Bool := path.toList.getLast? = some '/'

/-- The path of the directory that a path lies in. The root and the empty path lie in none. -/
def parent? (path : String) : Option String :=
  match (names path).reverse with
  | [] => none
  | _ :: rest =>
    let names := String.intercalate "/" rest.reverse
    some (if isAbsolute path then "/" ++ names else names)

end Path

end Reminders
