import Reminders.Billing.Draft
import Reminders.Calendar.DateText
import Reminders.Config.Basic
import Reminders.Delivery.ChannelError
import Reminders.Reminder.Template
import Reminders.Store.Basic

/-!
Failures.

Everything that an operation of the program can fail with, sorted by whose fault it is. The kind of
a failure is the first word of its message, except for files.
-/

namespace Reminders

/-- Input that is refused before anything is stored. -/
inductive ValidationError where
  | billing (problem : BillingProblem)
  | leadTime (error : LeadTimeError)
  /-- The month of a date has no next month in the calendar. -/
  | noNextMonth (date : Date)
deriving DecidableEq

/-- The wording of an error. -/
def ValidationError.message : ValidationError → String
  | billing problem => problem.message
  | leadTime error => error.message
  | noNextMonth date => "no month bounds for " ++ date.toText

/-- What an operation fails with. -/
inductive Failure where
  | validation (cause : ValidationError)
  | config (cause : ConfigError)
  | database (cause : StoreError)
  | channel (cause : ChannelError)
  | template (cause : TemplateProblem)
  | file (cause : FileError)
deriving DecidableEq

namespace Failure

/-- The wording of a failure. -/
def message : Failure → String
  | validation cause => "validation error: " ++ cause.message
  | config cause => "config error: " ++ cause.message
  | database cause => "database error: " ++ cause.message
  | channel cause => "channel error: " ++ cause.message
  | template cause => "template error: " ++ cause.message
  | file cause => cause.message

end Failure

end Reminders
