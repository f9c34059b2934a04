import Reminders.Json.Decode
import Reminders.Policy.Basic

/-!
Policies as JSON.
-/

namespace Reminders

namespace Policy

/-- The fields of a policy. -/
def shape : Shape Policy :=
  Policy.mk
    <$> .required "user_id" Json.decodeInt64
    <*> .required "days_before" Json.decodeWord32
    <*> .required "notify_on_due_day" Json.decodeBool

/-- Reads a policy. -/
def ofJson : Decoder Policy := shape.decode "struct NotificationPolicy"

/-- The JSON of a policy. -/
def toJson (p : Policy) : Json :=
  .obj
    [("user_id", .int p.userId),
      ("days_before", .int p.daysBefore.toNat),
      ("notify_on_due_day", .bool p.onDueDay)]

end Policy

namespace PolicyUpdate

/-- The fields of an update. -/
def shape : Shape PolicyUpdate :=
  PolicyUpdate.mk
    <$> .optional "days_before" Json.decodeInt64
    <*> .optional "notify_on_due_day" Json.decodeBool

/-- Reads an update. -/
def ofJson : Decoder PolicyUpdate := shape.decode "struct PolicyUpdate"

end PolicyUpdate

/-- The JSON of the policy that counts for a subscription. -/
def EffectivePolicy.toJson (p : EffectivePolicy) : Json :=
  .obj
    [("days_before", .int p.daysBefore.toNat),
      ("notify_on_due_day", .bool p.onDueDay),
      ("notify_enabled", .bool p.enabled)]

end Reminders
