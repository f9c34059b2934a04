import Reminders.Channel.Json
import Reminders.Delivery.LogEntry

/-!
Log entries as JSON.
-/

namespace Reminders

namespace DeliveryStatus

/-- The tags of statuses. -/
def tags : List (String × DeliveryStatus) := [sent, failed].map fun s => (s.tag, s)

def decode : Decoder DeliveryStatus := Json.decodeTag tags

end DeliveryStatus

namespace LogEntry

/-- The fields of a log entry. -/
def shape : Shape LogEntry :=
  LogEntry.mk
    <$> .required "subscription_id" Json.decodeInt64
    <*> .required "user_id" Json.decodeInt64
    <*> .required "channel_type" ChannelType.decode
    <*> .required "notify_date" Json.decodeDate
    <*> .required "status" DeliveryStatus.decode
    <*> .optional "error" Json.decodeString
    <*> .required "sent_at" Json.decodeInstant

/-- Reads a log entry. -/
def ofJson : Decoder LogEntry := shape.decode "struct NotificationLog"

/-- The JSON of a log entry. -/
def toJson (e : LogEntry) : Json :=
  .obj
    [("subscription_id", .int e.subscriptionId),
      ("user_id", .int e.userId),
      ("channel_type", .str e.channelType.tag),
      ("notify_date", .str e.notifyDate.toText),
      ("status", .str e.status.tag),
      ("error", .ofText? e.error),
      ("sent_at", .str e.sentAt.toText)]

end LogEntry

end Reminders
