import Reminders.Config.Basic
import Reminders.Text.Width
import Reminders.Toml.Parser
import Reminders.Toml.Quoted

/-!
The configuration as a text of TOML.

Whatever is left out has its default value, and what is not known is passed over. A configuration is
read only if it is fit to run with; it is written whether it is or not.
-/

namespace Reminders

namespace Toml

/-- The values of the fields of a record: those of a table go by name, those of an array by position,
and a time has none of them. -/
def fields? (names : List String) : Toml → Option (List (Option Toml))
  | .table _ entries => some (names.map (find? entries))
  | .arr items => some (names.zipIdx.map fun (_, i) => items[i]?)
  | .tables items => some (names.zipIdx.map fun (_, i) => items[i]?.map (.table .header))
  | .time _ => some (names.map fun _ => none)
  | _ => none

/-- Reads a value if there is one. -/
def orDefault (read : Toml → Option α) (fallback : α) : Option Toml → Option α
  | some v => read v
  | none => some fallback

/-- A text. -/
def text? : Toml → Option String
  | .str s => some s
  | _ => none

/-- A natural number. -/
def word64? : Toml → Option UInt64
  | .int n => if 0 ≤ n then some (.ofNat n.toNat) else none
  | _ => none

/-- A whole number of 32 bits. -/
def int32? : Toml → Option Int32
  | .int n => if Width.IsInt32 n then some (.ofInt n) else none
  | _ => none

end Toml

namespace SchedulerConfig

/-- Reads the scheduler's section. -/
def ofToml? (v : Toml) : Option SchedulerConfig := do
  let fields ← v.fields?
    ["tick_interval_secs", "user_concurrency", "job_concurrency", "utc_offset_minutes",
      "send_timeout_secs"]
  match fields with
  | [interval, users, jobs, minutes, timeout] =>
    return {
      tickIntervalSecs := ← Toml.orDefault Toml.word64? default.tickIntervalSecs interval
      userConcurrency := ← Toml.orDefault Toml.word64? default.userConcurrency users
      jobConcurrency := ← Toml.orDefault Toml.word64? default.jobConcurrency jobs
      utcOffsetMinutes := ← Toml.orDefault Toml.int32? default.utcOffsetMinutes minutes
      sendTimeoutSecs := ← Toml.orDefault Toml.word64? default.sendTimeoutSecs timeout }
  | _ => none

end SchedulerConfig

namespace Config

/-- Reads a section of one text. -/
def textSection? (key fallback : String) (v : Toml) : Option String := do
  match ← v.fields? [key] with
  | [value] => Toml.orDefault Toml.text? fallback value
  | _ => none

/-- The configuration that a table describes. -/
def ofEntries? (entries : Toml.Entries) : Option Config := do
  return {
    databasePath := ← Toml.orDefault (textSection? "path" default.databasePath)
      default.databasePath (Toml.find? entries "database")
    scheduler := ← Toml.orDefault SchedulerConfig.ofToml? default.scheduler
      (Toml.find? entries "scheduler")
    defaultTemplate := ← Toml.orDefault (textSection? "default_template" default.defaultTemplate)
      default.defaultTemplate (Toml.find? entries "notify") }

/-- Reads a configuration that is fit to run with. -/
def ofText (s : String) : Except (Halt ConfigError) Config :=
  match (Toml.parse? s).bind ofEntries? with
  | some c => c.validate.map fun _ => c
  | none => .error (.refused .malformed)

/-- A natural number, if TOML can hold it. -/
def writtenWord (n : UInt64) : Except ConfigError String :=
  if n.toNat ≤ Width.maxInt64 then .ok (Numeral.ofNat n.toNat) else .error .unwritable

/-- The text of a configuration. -/
def toText (c : Config) : Except ConfigError String := do
  let interval ← writtenWord c.scheduler.tickIntervalSecs
  let users ← writtenWord c.scheduler.userConcurrency
  let jobs ← writtenWord c.scheduler.jobConcurrency
  let timeout ← writtenWord c.scheduler.sendTimeoutSecs
  return "[database]\n" ++
    "path = " ++ Toml.quoted c.databasePath ++ "\n" ++
    "\n[scheduler]\n" ++
    "tick_interval_secs = " ++ interval ++ "\n" ++
    "user_concurrency = " ++ users ++ "\n" ++
    "job_concurrency = " ++ jobs ++ "\n" ++
    "utc_offset_minutes = " ++ Numeral.ofInt c.scheduler.utcOffsetMinutes.toInt ++ "\n" ++
    "send_timeout_secs = " ++ timeout ++ "\n" ++
    "\n[notify]\n" ++
    "default_template = " ++ Toml.quoted c.defaultTemplate ++ "\n"

end Config

end Reminders
