import Reminders.Text.Numeral
import Reminders.Text.Width

/-!
The configuration.

`Config.validate` refuses values that the scheduler cannot run with. The clock that decides which
day it is runs at a fixed distance from UTC, given in minutes; `SchedulerConfig.offset` is that
distance in seconds when it is less than a day. Minutes whose seconds do not fit in 32 bits are not
refused: they stop the program.
-/

namespace Reminders

/-- How the scheduler runs. -/
structure SchedulerConfig where
  tickIntervalSecs : UInt64
  /-- How many users are processed at a time. -/
  userConcurrency : UInt64
  /-- How many reminders of a user are sent at a time. -/
  jobConcurrency : UInt64
  /-- How far the clock runs ahead of UTC. -/
  utcOffsetMinutes : Int32
  sendTimeoutSecs : UInt64
deriving DecidableEq

/-- The configuration. -/
structure Config where
  databasePath : String
  scheduler : SchedulerConfig
  /-- The template of reminders whose channel has none. -/
  defaultTemplate : String
deriving DecidableEq

/-- Why a file cannot be read or written. -/
inductive FileError where
  | notFound
  | exists
  | notDirectory
  | isDirectory
  | denied
  | notText
deriving DecidableEq

/-- The wording of an error. -/
def FileError.message : FileError → String
  | .notFound => "No such file or directory (os error 2)"
  | .denied => "Permission denied (os error 13)"
  | .exists => "File exists (os error 17)"
  | .notDirectory => "Not a directory (os error 20)"
  | .isDirectory => "Is a directory (os error 21)"
  | .notText => "stream did not contain valid UTF-8"

/-- Why a configuration cannot be used. -/
inductive ConfigError where
  | zeroConcurrency
  | zeroInterval
  | offsetOutOfRange (minutes : Int32)
  /-- The file cannot be read. -/
  | unreadable (cause : FileError)
  /-- The text is not a configuration. -/
  | malformed
  /-- The configuration cannot be written. -/
  | unwritable
deriving DecidableEq

/-- The wording of an error. -/
def ConfigError.message : ConfigError → String
  | zeroConcurrency => "scheduler concurrency must be at least 1"
  | zeroInterval => "tick_interval_secs must be positive"
  | offsetOutOfRange minutes => "utc_offset_minutes out of range: " ++ Numeral.ofInt minutes.toInt
  | unreadable cause => "Failed to read config: " ++ cause.message
  | malformed => "Failed to parse config"
  | unwritable => "Failed to serialize config: out-of-range value for u64 type"

/-- Why a computation in words gives no result. -/
inductive Halt (ε : Type) where
  /-- What was given is refused. -/
  | refused (cause : ε)
  /-- A number does not fit in its word, and the program stops. -/
  | overflow
deriving DecidableEq

namespace Halt

variable {ε ε' : Type}

/-- The same, with its cause put in other terms. -/
def map (f : ε → ε') : Halt ε → Halt ε'
  | refused cause => refused (f cause)
  | overflow => overflow

end Halt

namespace SchedulerConfig

/-- How the scheduler runs when nothing is said. -/
def default : SchedulerConfig := ⟨3600, 4, 4, 0, 10⟩

/-- The distance of the clock from UTC in seconds, if it is less than a day. The product is taken in
32 bits before it is compared with a day. -/
def offset (s : SchedulerConfig) : Except (Halt ConfigError) Int :=
  let seconds := s.utcOffsetMinutes.toInt * 60
  if ¬Width.IsInt32 seconds then .error .overflow
  else if -86400 < seconds ∧ seconds < 86400 then .ok seconds
  else .error (.refused (.offsetOutOfRange s.utcOffsetMinutes))

end SchedulerConfig

namespace Config

/-- The configuration when nothing is said. -/
def default : Config where
  databasePath := "~/.renewly/renewly.db"
  scheduler := .default
  defaultTemplate :=
    "Reminder: \x7b\x7bname\x7d\x7d renews on \x7b\x7bbilling_date\x7d\x7d " ++
    "(\x7b\x7bdays_until\x7d\x7d days) for \x7b\x7bamount\x7d\x7d \x7b\x7bcurrency\x7d\x7d."

/-- Refuses values that the scheduler cannot run with. -/
def validate (c : Config) : Except (Halt ConfigError) Unit :=
  if c.scheduler.userConcurrency = 0 ∨ c.scheduler.jobConcurrency = 0 then
    .error (.refused .zeroConcurrency)
  else if c.scheduler.tickIntervalSecs = 0 then .error (.refused .zeroInterval)
  else c.scheduler.offset.map fun _ => ()

end Config

end Reminders
