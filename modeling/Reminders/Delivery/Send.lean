import Reminders.Channel.Email
import Reminders.Channel.Push
import Reminders.Channel.Telegram
import Reminders.Channel.Webhook
import Reminders.Delivery.Pool

/-!
Sending a message over a channel.

Every kind of channel has its service; a registry says for which kinds there is a sender.
`Registry.send` reads the channel's settings and makes one request, or sends one letter. Nothing is
sent when the kind is not registered or the settings are of no use.
-/

namespace Reminders

/-- What senders reach others by. -/
structure Network where
  /-- The reply to a request, if one comes. -/
  reply : Request → Option Reply
  /-- Whether a mail server takes a letter. -/
  takes : EmailSettings → Letter → Bool

/-- Reads the settings of a channel. -/
def Channel.settings (c : Channel) (decoder : Decoder α) : Except ChannelError α :=
  (decoder c.config).mapError (.badSettings c.type)

/-- The call that sends a message over a channel. A letter needs no call. -/
def Channel.call? (c : Channel) (now : Instant) (message : String) :
    Option (Except ChannelError ServiceCall) :=
  match c.type with
  | .email => none
  | .telegram => some do (← c.settings TelegramSettings.ofJson).call message
  | .webhook => some do (← c.settings WebhookSettings.ofJson).call c.id now message
  | .discord => some do (← c.settings DiscordSettings.ofJson).call message
  | .slack => some do Slack.call (← c.settings (RoomSettings.ofJson "struct SlackConfig")) message
  | .teams => some do Teams.call (← c.settings (RoomSettings.ofJson "struct TeamsConfig")) message
  | .ntfy => some do (← c.settings NtfySettings.ofJson).call message
  | .gotify => some do (← c.settings GotifySettings.ofJson).call message
  | .pushover => some do (← c.settings PushoverSettings.ofJson).call message
  | .bark => some do (← c.settings BarkSettings.ofJson).call message
  | .feishu => some do
    Feishu.call (← c.settings (SignedRoomSettings.ofJson "struct FeishuConfig")) now.unixSeconds
      message
  | .dingtalk => some do
    Dingtalk.call (← c.settings (SignedRoomSettings.ofJson "struct DingtalkConfig"))
      now.unixMilliseconds message
  | .wecom => some do Wecom.call (← c.settings (RoomSettings.ofJson "struct WecomConfig")) message
  | .serverchan => some do (← c.settings ServerchanSettings.ofJson).call message
  | .pushplus => some do (← c.settings PushplusSettings.ofJson).call message

/-- Sends a message as a letter. -/
def Channel.mail (c : Channel) (network : Network) (message hint : String) :
    Except ChannelError Unit := do
  let settings ← c.settings EmailSettings.ofJson
  let letter ← settings.letter message hint
  if network.takes settings letter then return () else throw .notMailed

/-- Sends a message over a channel. -/
def Channel.send (c : Channel) (network : Network) (now : Instant) (message hint : String) :
    Outcome :=
  match c.call? now message with
  | none => ⟨[], c.mail network message hint⟩
  | some (.error e) => .refused e
  | some (.ok call) => call.perform network.reply

/-- The kinds of channels that there is a sender for. -/
abbrev Registry := List ChannelType

namespace Registry

/-- Sends a message over a channel whose kind is registered. -/
def send (registry : Registry) (network : Network) (now : Instant) (c : Channel)
    (message hint : String) : Outcome :=
  if c.type ∈ registry then c.send network now message hint else .refused (.unregistered c.type)

/-- The sender of a registry. It takes no time to send. -/
def sender (registry : Registry) (network : Network) (now : Instant) : Sender :=
  fun c message hint => ⟨0, (registry.send network now c message hint).result⟩

/-- No more than one request is made. -/
theorem length_requests_send_le (registry : Registry) (network : Network) (now : Instant)
    (c : Channel) (message hint : String) :
    (registry.send network now c message hint).requests.length ≤ 1 := by
  unfold send Channel.send
  split
  · split
    · simp
    · simp [Outcome.refused]
    · exact ServiceCall.length_requests_perform_le ..
  · simp [Outcome.refused]

end Registry

end Reminders
