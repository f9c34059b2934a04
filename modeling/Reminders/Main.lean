import Reminders.CommandLine.Perform
import Std.Time

/-!
The program.

It takes its files from the disk and its time from the system. It has no transport of its own for
requests and letters, so none of them gets a reply.
-/

namespace Reminders.Program

/-- The error of an operation on a file. -/
def fileErrorOf : IO.Error → FileError
  | .noFileOrDirectory .. => .notFound
  | .alreadyExists .. => .exists
  | .permissionDenied .. => .denied
  | .userError _ => .notText
  | .inappropriateType _ code _ => if code = 20 then .notDirectory else .isDirectory
  | _ => .notFound

/-- The result of an operation on a file. -/
def attempt (step : IO α) : IO (Except FileError α) := do
  return (← step.toBaseIO).mapError fileErrorOf

/-- The files of the disk. -/
def diskFiles (home : String) : Files IO where
  home
  isThere path := do
    match ← attempt (IO.FS.readFile path) with
    | .ok _ | .error .isDirectory | .error .notText | .error .denied => return true
    | .error _ => return false
  read path := attempt (IO.FS.readFile path)
  makeDirectories path := attempt (if path = "" then pure () else IO.FS.createDirAll path)
  write path text := attempt (IO.FS.writeFile path text)

/-- The time. -/
def currentInstant : IO Instant := do
  let seconds := (← Std.Time.Timestamp.now).toSecondsSinceUnixEpoch.toInt
  return (Instant.ofUnixSeconds? seconds).getD (.startOf .first)

/-- A network that nobody answers on. -/
def silentNetwork : Network := ⟨fun _ => none, fun _ _ => false⟩

/-- Prints what a command came to. -/
def finish (output : CommandLine.Output) : IO UInt32 := do
  IO.print output.out
  IO.eprint output.err
  return .ofNat output.code

/-- Ticks over and over. -/
partial def tickForever (around : CommandLine.Surroundings IO) (c : Config) : IO UInt32 := do
  match ← (CommandLine.tick around c).run with
  | .ok _ =>
    IO.sleep (.ofNat (c.scheduler.tickIntervalSecs.toNat * 1000))
    tickForever around c
  | .error stop => finish ⟨stop.code, "", stop.report⟩

end Reminders.Program

open Reminders Reminders.Program

/-- Runs the program with its arguments. -/
def main (args : List String) : IO UInt32 := do
  let home := (← IO.getEnv "HOME").getD "."
  let around : CommandLine.Surroundings IO := ⟨diskFiles home, currentInstant, silentNetwork⟩
  match CommandLine.parse args with
  | .perform options .run =>
    match ← (CommandLine.loadConfig around.files options).run with
    | .ok c => tickForever around c
    | .error stop => finish ⟨stop.code, "", stop.report⟩
  | _ => finish (← CommandLine.invoke around args)
