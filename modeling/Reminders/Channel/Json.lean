import Reminders.Channel.Basic
import Reminders.Json.Decode

/-!
Channels as JSON.
-/

namespace Reminders

namespace ChannelType

/-- The tags of the kinds of channels. -/
def tags : List (String × ChannelType) := all.map fun t => (t.tag, t)

def decode : Decoder ChannelType := Json.decodeTag tags

end ChannelType

namespace Channel

/-- The fields of a channel. -/
def shape : Shape Channel :=
  Channel.mk
    <$> .required "id" Json.decodeInt64
    <*> .required "user_id" Json.decodeInt64
    <*> .required "channel_type" ChannelType.decode
    <*> .required "enabled" Json.decodeBool
    <*> .required "config" Json.decodeAny
    <*> .optional "template" Json.decodeString

/-- Reads a channel. -/
def ofJson : Decoder Channel := shape.decode "struct NotificationChannel"

/-- The JSON of a channel. -/
def toJson (c : Channel) : Json :=
  .obj
    [("id", .int c.id),
      ("user_id", .int c.userId),
      ("channel_type", .str c.type.tag),
      ("enabled", .bool c.enabled),
      ("config", c.config),
      ("template", .ofText? c.template)]

end Channel

end Reminders
