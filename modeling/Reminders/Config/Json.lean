import Reminders.Config.Basic
import Reminders.Json.Decode

/-!
The configuration as JSON. Whatever is left out has its default value.
-/

namespace Reminders

namespace SchedulerConfig

/-- The fields of the scheduler's section. -/
def shape : Shape SchedulerConfig :=
  SchedulerConfig.mk
    <$> .defaulted "tick_interval_secs" Json.decodeWord64 default.tickIntervalSecs
    <*> .defaulted "user_concurrency" Json.decodeCount default.userConcurrency
    <*> .defaulted "job_concurrency" Json.decodeCount default.jobConcurrency
    <*> .defaulted "utc_offset_minutes"
      (fun v => (Json.decodeInt32 v).map Int32.ofInt) default.utcOffsetMinutes
    <*> .defaulted "send_timeout_secs" Json.decodeWord64 default.sendTimeoutSecs

/-- Reads the scheduler's section. -/
def ofJson : Decoder SchedulerConfig := shape.decode "struct SchedulerConfig"

/-- The JSON of the scheduler's section. -/
def toJson (s : SchedulerConfig) : Json :=
  .obj
    [("tick_interval_secs", .int s.tickIntervalSecs.toNat),
      ("user_concurrency", .int s.userConcurrency.toNat),
      ("job_concurrency", .int s.jobConcurrency.toNat),
      ("utc_offset_minutes", .int s.utcOffsetMinutes.toInt),
      ("send_timeout_secs", .int s.sendTimeoutSecs.toNat)]

end SchedulerConfig

namespace Config

/-- A section of one text. -/
def textSection (name key value : String) : Decoder String :=
  (Shape.defaulted key Json.decodeString value).decode name

/-- The fields of a configuration. -/
def shape : Shape Config :=
  Config.mk
    <$> .defaulted "database" (textSection "struct DatabaseConfig" "path" default.databasePath)
      default.databasePath
    <*> .defaulted "scheduler" SchedulerConfig.ofJson default.scheduler
    <*> .defaulted "notify"
      (textSection "struct NotifyConfig" "default_template" default.defaultTemplate)
      default.defaultTemplate

/-- Reads a configuration, which may still be unfit to run with. -/
def ofJson : Decoder Config := shape.decode "struct RenewlyConfig"

/-- The JSON of a configuration. -/
def toJson (c : Config) : Json :=
  .obj
    [("database", .obj [("path", .str c.databasePath)]),
      ("scheduler", c.scheduler.toJson),
      ("notify", .obj [("default_template", .str c.defaultTemplate)])]

end Config

end Reminders
