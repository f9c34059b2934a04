import Reminders.Json.Value

/-!
Channels.

A channel is a way to reach a user: its type, the settings that the sender of this type reads, and a
template of its own if the user wrote one.
-/

namespace Reminders

/-- The kinds of channels. -/
inductive ChannelType where
  | telegram | email | webhook | discord | slack | teams | ntfy | gotify | pushover | bark
  | feishu | dingtalk | wecom | serverchan | pushplus
deriving DecidableEq

namespace ChannelType

/-- Every kind of channel. -/
def all : List ChannelType :=
  [telegram, email, webhook, discord, slack, teams, ntfy, gotify, pushover, bark, feishu, dingtalk,
    wecom, serverchan, pushplus]

def tag : ChannelType → String
  | telegram => "telegram"
  | email => "email"
  | webhook => "webhook"
  | discord => "discord"
  | slack => "slack"
  | teams => "teams"
  | ntfy => "ntfy"
  | gotify => "gotify"
  | pushover => "pushover"
  | bark => "bark"
  | feishu => "feishu"
  | dingtalk => "dingtalk"
  | wecom => "wecom"
  | serverchan => "serverchan"
  | pushplus => "pushplus"

/-- The kind of a tag. -/
def ofTag? (s : String) : Option ChannelType := all.find? (·.tag = s)

theorem mem_all (t : ChannelType) : t ∈ all := by cases t <;> decide

@[simp] theorem ofTag?_tag (t : ChannelType) : ofTag? t.tag = some t := by cases t <;> decide

/-- Different kinds have different tags. -/
theorem tag_inj {a b : ChannelType} (h : a.tag = b.tag) : a = b :=
  Option.some.inj (by rw [← ofTag?_tag a, h, ofTag?_tag])

end ChannelType

/-- A way to reach a user. -/
structure Channel where
  id : Int
  userId : Int
  type : ChannelType
  enabled : Bool
  /-- The settings that the sender of this type reads. -/
  config : Json
  /-- The template of its messages, in place of the default one. -/
  template : Option String

end Reminders
