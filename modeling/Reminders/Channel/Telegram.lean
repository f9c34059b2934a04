import Reminders.Channel.Service
import Reminders.Json.Decode
import Reminders.Json.Outline

/-!
Telegram.

A bot sends the message to a chat. The reply says itself whether the message was taken.
-/

namespace Reminders

/-- The settings of a bot. -/
structure TelegramSettings where
  botToken : String
  /-- The number of the chat, or the name of a channel. -/
  chatId : String
  apiBase : String

namespace TelegramSettings

/-- The fields of the settings. -/
def shape : Shape TelegramSettings :=
  TelegramSettings.mk
    <$> .required "bot_token" Json.decodeString
    <*> .required "chat_id" Json.decodeString
    <*> .defaulted "api_base" Json.decodeString "https://api.telegram.org"

/-- Reads the settings. -/
def ofJson : Decoder TelegramSettings := shape.decode "struct TelegramConfig"

/-- The address of a method of the bot. -/
def url (s : TelegramSettings) (method : String) : String :=
  Text.trimRight '/' s.apiBase ++ "/bot" ++ s.botToken ++ "/" ++ method

/-- What carries a message. -/
def body (s : TelegramSettings) (message : String) : Json :=
  Json.object
    [("chat_id", .str s.chatId), ("text", .str message), ("disable_web_page_preview", .bool true)]

/-- What a reply says: whether the message was taken, and why not. The two fields are read and the
others passed over; of either there is one at most. -/
def reading? : Json.Outline → Option (Bool × Option String)
  | .members members =>
    match Json.valuesOf "ok" members, Json.valuesOf "description" members with
    | [ok], [] => do return (← Json.boolOf? ok, none)
    | [ok], [description] => do return (← Json.boolOf? ok, ← Json.textOrNull? description)
    | _, _ => none
  | .items [ok, description] => do return (← Json.boolOf? ok, ← Json.textOrNull? description)
  | .items _ => none

/-- Takes a reply that says that all went well. -/
def accept (r : Reply) : Except ChannelError Unit :=
  match (Json.outline? r.body).bind reading? with
  | some (true, _) => .ok ()
  | some (false, description) => .error (.notTaken "Telegram send failed" (description.getD ""))
  | none => .error (.request "Invalid Telegram response" .unreadable)

/-- The call that sends a message. -/
def call (s : TelegramSettings) (message : String) : Except ChannelError ServiceCall := do
  requireText "Telegram" "bot_token" s.botToken
  requireText "Telegram" "chat_id" s.chatId
  return {
    draft := .post (s.url "sendMessage") (.json (s.body message))
    doing := "Telegram sendMessage failed"
    accept }

end TelegramSettings

end Reminders
