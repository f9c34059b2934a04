import Reminders.Delivery.Pool
import Reminders.Reminder.Fields
import Reminders.Scheduler.Engine
import Reminders.Scheduler.Rollover

/-!
The run of a user.

The run of a user on a day moves overdue subscriptions forward, finds the subscriptions whose
reminder is due, and pairs each with the user's channels. Of several channels of one type the first
counts. A pair is passed over when the log says that this reminder was sent, or when its template
cannot be rendered; every other pair becomes a job. Nothing is sent before all jobs are known.
-/

namespace Reminders

/-- What becomes of a due subscription and a channel. -/
inductive Candidate where
  /-- The log says that the reminder was sent. -/
  | alreadySent
  /-- The template cannot be rendered. -/
  | unrenderable
  /-- The reminder is to be sent. -/
  | ready (job : Job)

/-- What the run of a user did. -/
structure UserReport where
  /-- Subscriptions that moved forward. -/
  advanced : Nat
  /-- Subscriptions whose reminder is due. -/
  due : Nat
  alreadySent : Nat
  renderFailures : Nat
  delivery : DeliveryStats
deriving DecidableEq

namespace UserReport

def zero : UserReport := ⟨0, 0, 0, 0, .zero⟩

def add (a b : UserReport) : UserReport :=
  ⟨a.advanced + b.advanced, a.due + b.due, a.alreadySent + b.alreadySent,
    a.renderFailures + b.renderFailures, a.delivery + b.delivery⟩

instance : Add UserReport := ⟨add⟩

end UserReport

/-- What a run found before it sends anything. -/
structure Preparation where
  advanced : Nat
  due : Nat
  candidates : List Candidate

namespace Preparation

/-- The jobs to be sent. -/
def jobs (p : Preparation) : List Job :=
  p.candidates.filterMap fun
    | .ready job => some job
    | _ => none

/-- The report of a run whose jobs ended like this. -/
def report (p : Preparation) (delivery : DeliveryStats) : UserReport where
  advanced := p.advanced
  due := p.due
  alreadySent := p.candidates.countP fun | .alreadySent => true | _ => false
  renderFailures := p.candidates.countP fun | .unrenderable => true | _ => false
  delivery := delivery

end Preparation

/-- The first channel of each type that is not among those seen. -/
def leadingFrom (seen : List ChannelType) : List Channel → List Channel
  | [] => []
  | c :: rest =>
    if c.type ∈ seen then leadingFrom seen rest else c :: leadingFrom (c.type :: seen) rest

/-- The first channel of each type. -/
def leadingChannels (channels : List Channel) : List Channel := leadingFrom [] channels

/-- A subscription whose reminder is due, with the date of its charge. -/
structure DueReminder where
  subscription : Subscription
  billingDate : Date
  daysUntil : Int

/-- The reminder of a subscription, if it is due today. -/
def Subscription.dueReminder? (s : Subscription) (policy : Option Policy) (today : Date) :
    Option DueReminder :=
  match s.nextOccurrence with
  | none => none
  | some date =>
    let daysUntil := date.daysSince today
    if (EffectivePolicy.resolve s policy).IsDue daysUntil then some ⟨s, date, daysUntil⟩ else none

namespace Script

/-- What becomes of a due reminder and a channel. -/
def candidate (defaultTemplate : String) (user : Int) (email : String) (r : DueReminder)
    (channel : Channel) : Script Candidate := do
  let sent : Bool ← call (.existsSentLog ⟨r.subscription.id, channel.type, r.billingDate⟩)
  if sent then return .alreadySent
  let template := channel.template.getD defaultTemplate
  match Template.render template (r.subscription.reminderField r.billingDate r.daysUntil email) with
  | .error _ => return .unrenderable
  | .ok message =>
    return .ready
      { subscriptionId := r.subscription.id
        userId := user
        channel
        notifyDate := r.billingDate
        message
        hint := email }

/-- What becomes of each item of a list, in order. -/
def each (f : α → Script β) : List α → Script (List β)
  | [] => pure []
  | a :: rest => do
    let b ← f a
    return b :: (← each f rest)

/-- What a run finds once some subscriptions were moved forward. -/
def findings (defaultTemplate : String) (user : Int) (today : Date) (advanced : Nat) :
    Script Preparation := do
  let channels : List Channel ← call (.findChannels user)
  if channels.isEmpty then return ⟨advanced, 0, []⟩
  let subscriptions : List Subscription ← call (.findNotifiable user)
  let policy : Option Policy ← call (.findPolicy user)
  let address : Option String ← call (.findUserEmail user)
  let email := address.getD ""
  let due := subscriptions.filterMap (·.dueReminder? policy today)
  let pairs := due.flatMap fun r => (leadingChannels channels).map fun c => (r, c)
  let candidates ← each (fun (r, c) => candidate defaultTemplate user email r c) pairs
  return ⟨advanced, due.length, candidates⟩

/-- Everything that a run does before it sends. -/
def prepare (defaultTemplate : String) (user : Int) (today : Date) : Script Preparation := do
  findings defaultTemplate user today (← advanceUser user today)

end Script

/-- What a run of a user leads to. -/
structure UserOutcome where
  result : Except Failure UserReport
  /-- The jobs that were sent. -/
  sent : List Job
  store : Store

/-- The run of a user on a day. -/
def Engine.runUser (e : Engine) (sender : Sender) (desk : Desk) (now : Instant) (s : Store)
    (user : Int) (today : Date) : UserOutcome :=
  match (Script.prepare e.defaultTemplate user today).run desk s with
  | (.error failure, s) => ⟨.error failure, [], s⟩
  | (.ok preparation, s) =>
    let pool : Pool := ⟨sender, e.timeout, desk, now⟩
    let (stats, s) := pool.run s preparation.jobs
    ⟨.ok (preparation.report stats), preparation.jobs, s⟩

end Reminders
