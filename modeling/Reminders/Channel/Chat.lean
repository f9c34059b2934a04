import Reminders.Calendar.Instant
import Reminders.Channel.Service
import Reminders.Digest.Sha256
import Reminders.Json.Decode

/-!
Rooms of chat services.

A service gives a room an address, and whatever is posted there appears in the room. Some services
want the request signed by a secret and the time, and some report failure by a code in a reply of
success.
-/

namespace Reminders

/-- The beginning of a text of at most `limit` characters; one that is cut ends in an ellipsis. -/
def Text.truncated (limit : Nat) (s : String) : String :=
  if s.length ≤ limit then s else String.ofList (s.toList.take (limit - 1) ++ ['…'])

/-! ### Discord -/

/-- The settings of a Discord room. -/
structure DiscordSettings where
  webhookUrl : String
  username : Option String

namespace DiscordSettings

/-- The fields of the settings. -/
def shape : Shape DiscordSettings :=
  DiscordSettings.mk
    <$> .required "webhook_url" Json.decodeString
    <*> .defaulted "username" (Json.decodeOption Json.decodeString) none

/-- Reads the settings. -/
def ofJson : Decoder DiscordSettings := shape.decode "struct DiscordConfig"

/-- The longest message that is taken. -/
def maxLength : Nat := 2000

/-- What carries a message. -/
def body (s : DiscordSettings) (message : String) : Json :=
  Json.object
    (("content", .str (Text.truncated maxLength message)) ::
      (s.username.map fun name => ("username", .str name)).toList)

/-- The call that sends a message. -/
def call (s : DiscordSettings) (message : String) : Except ChannelError ServiceCall := do
  requireText "Discord" "webhook_url" s.webhookUrl
  return ⟨.post s.webhookUrl (.json (s.body message)), "Discord", Reply.requireSuccess "Discord"⟩

end DiscordSettings

/-! ### Slack, Teams and WeCom -/

/-- The settings of a room that is known by its address alone. -/
structure RoomSettings where
  webhookUrl : String

namespace RoomSettings

/-- The fields of the settings. -/
def shape : Shape RoomSettings := RoomSettings.mk <$> .required "webhook_url" Json.decodeString

/-- Reads the settings, which an error calls by a name. -/
def ofJson (name : String) : Decoder RoomSettings := shape.decode name

/-- The call that posts a body to the room. -/
def post (s : RoomSettings) (service : String) (body : Json)
    (accept : Reply → Except ChannelError Unit) : Except ChannelError ServiceCall := do
  requireText service "webhook_url" s.webhookUrl
  return ⟨.post s.webhookUrl (.json body), service, accept⟩

end RoomSettings

namespace Slack

/-- What carries a message. -/
def body (message : String) : Json := Json.object [("text", .str message)]

/-- The call that sends a message. -/
def call (s : RoomSettings) (message : String) : Except ChannelError ServiceCall :=
  s.post "Slack" (body message) (Reply.requireSuccess "Slack")

end Slack

namespace Teams

/-- What carries a message. -/
def body (message : String) : Json :=
  Json.object
    [("@type", .str "MessageCard"), ("@context", .str "https://schema.org/extensions"),
      ("summary", .str reminderTitle), ("title", .str reminderTitle), ("text", .str message)]

/-- The call that sends a message. -/
def call (s : RoomSettings) (message : String) : Except ChannelError ServiceCall :=
  s.post "Teams" (body message) (Reply.requireSuccess "Teams")

end Teams

namespace Dingtalk

/-- What carries a message. -/
def body (message : String) : Json :=
  Json.object [("msgtype", .str "text"), ("text", Json.object [("content", .str message)])]

end Dingtalk

namespace Wecom

/-- The call that sends a message. The body is the one of DingTalk. -/
def call (s : RoomSettings) (message : String) : Except ChannelError ServiceCall :=
  s.post "WeCom" (Dingtalk.body message) (Reply.requireBoth "WeCom" "errcode" 0)

end Wecom

/-! ### Feishu and DingTalk -/

/-- The settings of a room whose messages may have to be signed. -/
structure SignedRoomSettings where
  webhookUrl : String
  secret : Option String

namespace SignedRoomSettings

/-- The fields of the settings. -/
def shape : Shape SignedRoomSettings :=
  SignedRoomSettings.mk
    <$> .required "webhook_url" Json.decodeString
    <*> .defaulted "secret" (Json.decodeOption Json.decodeString) none

/-- Reads the settings, which an error calls by a name. -/
def ofJson (name : String) : Decoder SignedRoomSettings := shape.decode name

/-- The secret, if messages are to be signed. -/
def signingSecret? (s : SignedRoomSettings) : Option String := s.secret.filter (· ≠ "")

end SignedRoomSettings

/-- What is signed: the time and the secret on two lines. -/
def signedText (time : Int) (secret : String) : List UInt8 :=
  Utf8.bytes (Numeral.ofInt time ++ "\n" ++ secret)

namespace Feishu

/-- The signature of a time in seconds: what is signed is the key of the digest of nothing. -/
def sign (time : Int) (secret : String) : String :=
  Base64.encode (Sha256.keyed (signedText time secret) [])

/-- What carries a message at a time in seconds. -/
def body (s : SignedRoomSettings) (time : Int) (message : String) : Json :=
  let signature := match s.signingSecret? with
    | some secret =>
      [("timestamp", Json.str (Numeral.ofInt time)), ("sign", .str (sign time secret))]
    | none => []
  Json.object
    ([("msg_type", .str "text"), ("content", Json.object [("text", .str message)])] ++ signature)

/-- The call that sends a message at a time in seconds. -/
def call (s : SignedRoomSettings) (time : Int) (message : String) :
    Except ChannelError ServiceCall := do
  requireText "Feishu" "webhook_url" s.webhookUrl
  return ⟨.post s.webhookUrl (.json (body s time message)), "Feishu",
    Reply.requireBoth "Feishu" "code" 0⟩

end Feishu

namespace Dingtalk

/-- The signature of a time in milliseconds: the digest of what is signed under the secret. -/
def sign (time : Int) (secret : String) : String :=
  Base64.encode (Sha256.keyed (Utf8.bytes secret) (signedText time secret))

/-- The fields that sign the address at a time in milliseconds. -/
def signature (s : SignedRoomSettings) (time : Int) : List (String × String) :=
  match s.signingSecret? with
  | some secret => [("timestamp", Numeral.ofInt time), ("sign", sign time secret)]
  | none => []

/-- The call that sends a message at a time in milliseconds. -/
def call (s : SignedRoomSettings) (time : Int) (message : String) :
    Except ChannelError ServiceCall := do
  requireText "DingTalk" "webhook_url" s.webhookUrl
  return ⟨⟨.post, s.webhookUrl, signature s time, [], .json (body message)⟩, "DingTalk",
    Reply.requireBoth "DingTalk" "errcode" 0⟩

end Dingtalk

end Reminders
