import Reminders.Channel.Chat

/-!
Push services.

Each of them brings the message to the user's devices. A key or a topic says whose devices are meant.
-/

namespace Reminders

/-! ### ntfy -/

/-- The settings of an ntfy topic. -/
structure NtfySettings where
  server : String
  topic : String
  token : Option String
  priority : Option UInt8

namespace NtfySettings

/-- The fields of the settings. -/
def shape : Shape NtfySettings :=
  NtfySettings.mk
    <$> .defaulted "server" Json.decodeString "https://ntfy.sh"
    <*> .required "topic" Json.decodeString
    <*> .defaulted "token" (Json.decodeOption Json.decodeString) none
    <*> .defaulted "priority" (Json.decodeOption Json.decodeWord8) none

/-- Reads the settings. -/
def ofJson : Decoder NtfySettings := shape.decode "struct NtfyConfig"

/-- The address of the topic. -/
def url (s : NtfySettings) : String :=
  Text.trimRight '/' s.server ++ "/" ++ Text.trimBoth '/' s.topic

/-- The headers of a message: its title, a priority between one and five, and the token. -/
def headers (s : NtfySettings) : List (String × String) :=
  ("title", reminderTitle) ::
    (s.priority.map fun p => ("priority", Numeral.ofNat (max 1 (min 5 p.toNat)))).toList ++
    (s.token.map fun token => ("authorization", "Bearer " ++ token)).toList

/-- The call that sends a message. -/
def call (s : NtfySettings) (message : String) : Except ChannelError ServiceCall := do
  requireText "ntfy" "topic" s.topic
  return ⟨⟨.post, s.url, [], s.headers, .text message⟩, "ntfy", Reply.requireSuccess "ntfy"⟩

end NtfySettings

/-! ### Gotify -/

/-- The settings of a Gotify server. -/
structure GotifySettings where
  server : String
  appToken : String
  priority : UInt8

namespace GotifySettings

/-- The fields of the settings. -/
def shape : Shape GotifySettings :=
  GotifySettings.mk
    <$> .required "server" Json.decodeString
    <*> .required "app_token" Json.decodeString
    <*> .defaulted "priority" Json.decodeWord8 5

/-- Reads the settings. -/
def ofJson : Decoder GotifySettings := shape.decode "struct GotifyConfig"

/-- What carries a message. -/
def body (s : GotifySettings) (message : String) : Json :=
  Json.object
    [("title", .str reminderTitle), ("message", .str message), ("priority", .int s.priority.toNat)]

/-- The call that sends a message. -/
def call (s : GotifySettings) (message : String) : Except ChannelError ServiceCall := do
  requireText "Gotify" "server" s.server
  requireText "Gotify" "app_token" s.appToken
  return {
    draft :=
      { method := .post
        address := Text.trimRight '/' s.server ++ "/message"
        query := []
        headers := [("x-gotify-key", s.appToken)]
        body := .json (s.body message) }
    doing := "Gotify"
    accept := Reply.requireSuccess "Gotify" }

end GotifySettings

/-! ### Pushover -/

/-- The settings of a Pushover user. -/
structure PushoverSettings where
  appToken : String
  userKey : String
  device : Option String

namespace PushoverSettings

/-- The fields of the settings. -/
def shape : Shape PushoverSettings :=
  PushoverSettings.mk
    <$> .required "app_token" Json.decodeString
    <*> .required "user_key" Json.decodeString
    <*> .defaulted "device" (Json.decodeOption Json.decodeString) none

/-- Reads the settings. -/
def ofJson : Decoder PushoverSettings := shape.decode "struct PushoverConfig"

/-- The form that carries a message. -/
def form (s : PushoverSettings) (message : String) : List (String × String) :=
  [("token", s.appToken), ("user", s.userKey), ("title", reminderTitle), ("message", message)] ++
    (s.device.map fun device => ("device", device)).toList

/-- The call that sends a message. -/
def call (s : PushoverSettings) (message : String) : Except ChannelError ServiceCall := do
  requireText "Pushover" "app_token" s.appToken
  requireText "Pushover" "user_key" s.userKey
  return ⟨.post "https://api.pushover.net/1/messages.json" (.form (s.form message)), "Pushover",
    Reply.requireSuccess "Pushover"⟩

end PushoverSettings

/-! ### Bark -/

/-- The settings of a Bark device. -/
structure BarkSettings where
  server : String
  deviceKey : String
  group : Option String

namespace BarkSettings

/-- The fields of the settings. -/
def shape : Shape BarkSettings :=
  BarkSettings.mk
    <$> .defaulted "server" Json.decodeString "https://api.day.app"
    <*> .required "device_key" Json.decodeString
    <*> .defaulted "group" (Json.decodeOption Json.decodeString) none

/-- Reads the settings. -/
def ofJson : Decoder BarkSettings := shape.decode "struct BarkConfig"

/-- What carries a message. -/
def body (s : BarkSettings) (message : String) : Json :=
  Json.object
    ([("device_key", .str s.deviceKey), ("title", .str reminderTitle), ("body", .str message)] ++
      (s.group.map fun group => ("group", Json.str group)).toList)

/-- The call that sends a message. -/
def call (s : BarkSettings) (message : String) : Except ChannelError ServiceCall := do
  requireText "Bark" "device_key" s.deviceKey
  return ⟨.post (Text.trimRight '/' s.server ++ "/push") (.json (s.body message)), "Bark",
    Reply.requireBoth "Bark" "code" 200⟩

end BarkSettings

/-! ### ServerChan -/

/-- The settings of a ServerChan user. -/
structure ServerchanSettings where
  sendKey : String

namespace ServerchanSettings

/-- The fields of the settings. -/
def shape : Shape ServerchanSettings := ServerchanSettings.mk <$> .required "send_key" Json.decodeString

/-- Reads the settings. -/
def ofJson : Decoder ServerchanSettings := shape.decode "struct ServerchanConfig"

/-- The address of the user. -/
def url (s : ServerchanSettings) : String :=
  "https://sctapi.ftqq.com/" ++ Text.trim s.sendKey ++ ".send"

/-- The form that carries a message. -/
def form (message : String) : List (String × String) :=
  [("title", reminderTitle), ("desp", message)]

/-- The call that sends a message. -/
def call (s : ServerchanSettings) (message : String) : Except ChannelError ServiceCall := do
  requireText "ServerChan" "send_key" s.sendKey
  return ⟨.post s.url (.form (form message)), "ServerChan", Reply.requireBoth "ServerChan" "code" 0⟩

end ServerchanSettings

/-! ### PushPlus -/

/-- The settings of a PushPlus user. -/
structure PushplusSettings where
  token : String
  topic : Option String

namespace PushplusSettings

/-- The fields of the settings. -/
def shape : Shape PushplusSettings :=
  PushplusSettings.mk
    <$> .required "token" Json.decodeString
    <*> .defaulted "topic" (Json.decodeOption Json.decodeString) none

/-- Reads the settings. -/
def ofJson : Decoder PushplusSettings := shape.decode "struct PushplusConfig"

/-- What carries a message. -/
def body (s : PushplusSettings) (message : String) : Json :=
  Json.object
    ([("token", .str s.token), ("title", .str reminderTitle), ("content", .str message),
        ("template", .str "txt")] ++
      (s.topic.map fun topic => ("topic", Json.str topic)).toList)

/-- The call that sends a message. -/
def call (s : PushplusSettings) (message : String) : Except ChannelError ServiceCall := do
  requireText "PushPlus" "token" s.token
  return ⟨.post "https://www.pushplus.plus/send" (.json (s.body message)), "PushPlus",
    Reply.requireBoth "PushPlus" "code" 200⟩

end PushplusSettings

end Reminders
