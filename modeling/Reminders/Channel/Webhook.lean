import Reminders.Calendar.InstantText
import Reminders.Channel.Service
import Reminders.Json.Decode

/-!
Web hooks.

The message goes to an address of the user's own, by a method and with headers of the user's choice.
-/

namespace Reminders

/-- The settings of a web hook. -/
structure WebhookSettings where
  url : String
  method : String
  headers : List (String × String)

namespace WebhookSettings

/-- The fields of the settings. -/
def shape : Shape WebhookSettings :=
  WebhookSettings.mk
    <$> .required "url" Json.decodeString
    <*> .defaulted "method" Json.decodeString "POST"
    <*> .defaulted "headers" Json.decodeStringMap []

/-- Reads the settings. -/
def ofJson : Decoder WebhookSettings := shape.decode "struct WebhookConfig"

/-- Reads a method, whatever its case and the blanks around it. -/
def parseMethod (s : String) : Except ChannelError HttpMethod :=
  let name := Text.upperAscii (Text.trim s)
  match HttpMethod.ofText? name with
  | some method => .ok method
  | none => .error (.badMethod name)

/-- What carries a message of a channel. -/
def body (channelId : Int) (now : Instant) (message : String) : Json :=
  Json.object
    [("title", .str reminderTitle), ("message", .str message), ("channel_id", .int channelId),
      ("timestamp", .str now.toOffsetText)]

/-- The call that sends a message. -/
def call (s : WebhookSettings) (channelId : Int) (now : Instant) (message : String) :
    Except ChannelError ServiceCall := do
  requireText "Webhook" "url" s.url
  let method ← parseMethod s.method
  return {
    draft := ⟨method, s.url, [], s.headers, .json (body channelId now message)⟩
    doing := "Webhook"
    accept := Reply.requireSuccess "Webhook" }

end WebhookSettings

end Reminders
