import Reminders.Calendar.Instant
import Reminders.Channel.Basic

/-!
The delivery log.

Every attempt to deliver a reminder leaves an entry. The reminder is known by its key: the
subscription, the kind of channel and the date of the charge.
-/

namespace Reminders

/-- How an attempt ended. -/
inductive DeliveryStatus where
  | sent | failed
deriving DecidableEq

namespace DeliveryStatus

def tag : DeliveryStatus → String
  | sent => "sent"
  | failed => "failed"

/-- The status of a stored tag: whatever is not sent has failed. -/
def ofTag (s : String) : DeliveryStatus := if s = "sent" then sent else failed

@[simp] theorem ofTag_tag (s : DeliveryStatus) : ofTag s.tag = s := by cases s <;> decide

end DeliveryStatus

/-- What a reminder is about and where it goes. -/
structure ReminderKey where
  subscriptionId : Int
  channelType : ChannelType
  notifyDate : Date
deriving DecidableEq

/-- One attempt to deliver a reminder. -/
structure LogEntry where
  subscriptionId : Int
  userId : Int
  channelType : ChannelType
  /-- The date of the charge. -/
  notifyDate : Date
  status : DeliveryStatus
  /-- Why the attempt failed. -/
  error : Option String
  sentAt : Instant
deriving DecidableEq

/-- The key of the reminder that was attempted. -/
def LogEntry.key (e : LogEntry) : ReminderKey := ⟨e.subscriptionId, e.channelType, e.notifyDate⟩

end Reminders
