import Reminders.Json.Value
import Reminders.Scheduler.UserRun

/-!
A tick.

A tick runs every user who has an enabled channel. A user whose run fails is counted and the others
carry on. The report adds up the runs that succeeded.
-/

namespace Reminders

/-- What a tick did. -/
structure TickReport where
  users : Nat
  usersFailed : Nat
  /-- The sums of the runs that succeeded. -/
  totals : UserReport
deriving DecidableEq

namespace TickReport

def zero : TickReport := ⟨0, 0, .zero⟩

/-- The report with one more run. -/
def absorb (t : TickReport) : Except Failure UserReport → TickReport
  | .ok report => { t with totals := t.totals + report }
  | .error _ => { t with usersFailed := t.usersFailed + 1 }

end TickReport

/-- What a tick leads to. -/
structure TickOutcome where
  report : TickReport
  /-- The jobs that were sent. -/
  sent : List Job
  store : Store

namespace Engine

/-- Runs users one after the other, from what the ones before led to. -/
def runUsers (e : Engine) (sender : Sender) (desk : Desk) (now : Instant) (today : Date) :
    List Int → TickOutcome → TickOutcome
  | [], t => t
  | user :: rest, t =>
    let u := e.runUser sender desk now t.store user today
    e.runUsers sender desk now today rest ⟨t.report.absorb u.result, t.sent ++ u.sent, u.store⟩

/-- A tick on a day. When the users cannot be listed nothing is done. -/
def tick (e : Engine) (sender : Sender) (desk : Desk) (now : Instant) (s : Store) (today : Date) :
    TickOutcome :=
  match s.serve desk .listUsers with
  | .error _ => ⟨.zero, [], s⟩
  | .ok (users, s) =>
    e.runUsers sender desk now today users ⟨⟨List.length users, 0, .zero⟩, [], s⟩

end Engine

/-! ### Reports as JSON -/

/-- The members of the counts of a run. -/
def DeliveryStats.toJson (s : DeliveryStats) : Json :=
  .obj [("sent", .int s.sent), ("failed", .int s.failed), ("log_errors", .int s.logErrors)]

/-- The members of the report of a run. -/
def UserReport.members (r : UserReport) : List (String × Json) :=
  [("advanced", .int r.advanced), ("due", .int r.due), ("already_sent", .int r.alreadySent),
    ("render_failures", .int r.renderFailures), ("dispatch", r.delivery.toJson)]

/-- The JSON of the report of a run. -/
def UserReport.toJson (r : UserReport) : Json := .obj r.members

/-- The JSON of the report of a tick. -/
def TickReport.toJson (r : TickReport) : Json :=
  .obj (("users", .int r.users) :: ("users_failed", .int r.usersFailed) :: r.totals.members)

/-- The number of ticks that start within a time when one starts every `interval` seconds, the first
at once. -/
def ticksWithin (interval seconds : Nat) : Nat := seconds / interval + 1

end Reminders
