import Reminders.Script

/-!
The delivery pool.

A job is sent, and what came of it is written into the delivery log. `Pool.run` does so with one job
after the other. `Delivery/Crew` has several workers do it at the same time.
-/

namespace Reminders

/-- A rendered reminder for one channel. -/
structure Job where
  subscriptionId : Int
  userId : Int
  channel : Channel
  /-- The date of the charge. -/
  notifyDate : Date
  message : String
  /-- Where to send it when the channel does not say. -/
  hint : String

/-- The key of the reminder. -/
def Job.key (j : Job) : ReminderKey := ⟨j.subscriptionId, j.channel.type, j.notifyDate⟩

/-- What comes of sending: how long it takes, and how it ends if it is waited for. -/
structure Attempt where
  milliseconds : Nat
  result : Except ChannelError Unit

/-- How an attempt ends: one that takes longer than it may has failed. -/
def Attempt.within (a : Attempt) (timeout : Nat) : Except ChannelError Unit :=
  if timeout < a.milliseconds then .error (.timedOut (timeout / 1000)) else a.result

/-- Sends a message over a channel; the last argument is the hint. -/
abbrev Sender := Channel → String → String → Attempt

/-- The counts of a run. -/
structure DeliveryStats where
  sent : Nat
  failed : Nat
  /-- Entries that the log refused. -/
  logErrors : Nat
deriving DecidableEq

namespace DeliveryStats

def zero : DeliveryStats := ⟨0, 0, 0⟩

def add (a b : DeliveryStats) : DeliveryStats :=
  ⟨a.sent + b.sent, a.failed + b.failed, a.logErrors + b.logErrors⟩

instance : Add DeliveryStats := ⟨add⟩

end DeliveryStats

/-! ### One job -/

namespace DeliveryStats

/-- The counts of one job, whose entry was refused or not. -/
def ofOutcome (outcome : Except ChannelError Unit) (refused : Bool) : DeliveryStats :=
  let logErrors := if refused then 1 else 0
  match outcome with
  | .ok () => ⟨1, 0, logErrors⟩
  | .error _ => ⟨0, 1, logErrors⟩

end DeliveryStats

namespace Job

/-- How sending a job ends. -/
def outcome (j : Job) (sender : Sender) (timeout : Nat) : Except ChannelError Unit :=
  (sender j.channel j.message j.hint).within timeout

/-- The entry that a job leaves in the log. -/
def entry (j : Job) (outcome : Except ChannelError Unit) (now : Instant) : LogEntry :=
  let (status, error) := match outcome with
    | .ok () => (DeliveryStatus.sent, none)
    | .error e => (DeliveryStatus.failed, some (Failure.channel e).message)
  { subscriptionId := j.subscriptionId
    userId := j.userId
    channelType := j.channel.type
    notifyDate := j.notifyDate
    status
    error
    sentAt := now }

/-- Writes the entry of a job that was sent, and counts it. -/
def record (j : Job) (outcome : Except ChannelError Unit) (desk : Desk) (now : Instant) (s : Store) :
    DeliveryStats × Store :=
  match s.serve desk (.insertLog (j.entry outcome now)) with
  | .ok (_, s) => (.ofOutcome outcome false, s)
  | .error _ => (.ofOutcome outcome true, s)

end Job

/-! ### One job after the other -/

/-- How jobs are sent. -/
structure Pool where
  sender : Sender
  /-- How long a job may take to send, in milliseconds. -/
  timeout : Nat
  /-- Which calls the store refuses. -/
  desk : Desk
  /-- The time that entries bear. -/
  now : Instant

/-- Sends the jobs one after the other. -/
def Pool.run (p : Pool) (s : Store) : List Job → DeliveryStats × Store
  | [] => (.zero, s)
  | j :: rest =>
    let (stats, s) := j.record (j.outcome p.sender p.timeout) p.desk p.now s
    let (more, s) := p.run s rest
    (stats + more, s)

end Reminders
