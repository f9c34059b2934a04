import Reminders.Config.Toml
import Reminders.Failure
import Reminders.Files.Basic

/-!
The configuration file.

It lies in a directory of its own in the user's home directory. Without it the configuration is the
default one.
-/

namespace Reminders.Config

variable {m : Type → Type} [Monad m]

/-- The directory of the program's own files. -/
def directory (home : String) : String := Path.join home ".renewly"

/-- Where the configuration file lies. -/
def defaultPath (home : String) : String := Path.join (directory home) "config.toml"

/-- Reads a configuration from a file. -/
def loadFrom (files : Files m) (path : String) : m (Except (Halt ConfigError) Config) := do
  match ← files.read path with
  | .ok text => return ofText text
  | .error e => return .error (.refused (.unreadable e))

/-- Reads the configuration from its file, if there is one. -/
def load (files : Files m) : m (Except (Halt ConfigError) Config) := do
  let path := defaultPath files.home
  if ← files.isThere path then loadFrom files path else return .ok default

/-- Writes the configuration to its file. One that cannot be written leaves the file as it is. -/
def save (files : Files m) (c : Config) : m (Except Failure Unit) := do
  match ← files.makeDirectories (directory files.home) with
  | .error e => return .error (.file e)
  | .ok () =>
    match c.toText with
    | .error e => return .error (.config e)
    | .ok text => return (← files.write (defaultPath files.home) text).mapError .file

end Reminders.Config
