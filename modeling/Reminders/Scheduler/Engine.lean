import Reminders.Failure

/-!
The engine.

An engine is a configuration that was found fit to run: its numbers are positive, its clock is less
than a day away from UTC, and its template is valid.
-/

namespace Reminders

/-- What the scheduler runs with. -/
structure Engine where
  /-- How far the clock runs ahead of UTC, in seconds. -/
  offset : Int
  userConcurrency : Nat
  jobConcurrency : Nat
  /-- How long a job may take to send, in milliseconds. -/
  timeout : Nat
  defaultTemplate : String
deriving DecidableEq

namespace Engine

/-- The engine of a configuration. -/
def ofConfig (c : Config) : Except (Halt Failure) Engine := do
  c.validate.mapError (·.map .config)
  (Template.validate c.defaultTemplate).mapError (.refused ∘ .template)
  let offset ← c.scheduler.offset.mapError (·.map .config)
  return {
    offset
    userConcurrency := max 1 c.scheduler.userConcurrency.toNat
    jobConcurrency := max 1 c.scheduler.jobConcurrency.toNat
    timeout := c.scheduler.sendTimeoutSecs.toNat * 1000
    defaultTemplate := c.defaultTemplate }

/-- The date on the engine's clock, if the calendar has it. -/
def today? (e : Engine) (now : Instant) : Option Date := now.dateIn? e.offset

end Engine

end Reminders
