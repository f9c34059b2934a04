import Mathlib.Tactic.SplitIfs
import Reminders.Proofs.Channel.Outcome
import Reminders.Proofs.Json.Faithful
import Reminders.Proofs.Web.Form

/-!
What arrives of a message.

Every service looks for the message at a place of its own: in a JSON object under one name or two, in
a field of a form, or in the whole body. `MessagePlace.read?` reads the octets of a body as the
service does, and `ChannelType.messagePlace` is where it looks.

* `Carries`: the request of a sender holds a message at a place.
* `Channel.carries_call?`: every sender's request holds the message at the place of its kind.
* `Registry.message_arrives`
-/

namespace Reminders

/-! ### Where the message stands -/

/-- The string under some names, each of them in the value of the one before. -/
def Json.textAt? : List String → Json → Option String
  | [], v => v.str?
  | name :: path, v => (v.get? name).bind (textAt? path)

/-- Where the message stands in the body of a request. -/
inductive MessagePlace where
  /-- In a JSON object under these names, one inside the other. -/
  | member (path : List String)
  /-- In the field of a form. -/
  | field (name : String)
  /-- The body is the message. -/
  | whole

/-- Reads the message from the octets of a body. -/
def MessagePlace.read? (place : MessagePlace) (octets : List UInt8) : Option String := do
  let text ← Utf8.decode? octets
  match place with
  | .member path => (← Json.parse? text).textAt? path
  | .field name => (← Form.read? text.toList).lookup name
  | .whole => some text

/-- Where the service of a kind looks for the message. A letter has nothing but its text. -/
def ChannelType.messagePlace : ChannelType → MessagePlace
  | .telegram | .slack | .teams => .member ["text"]
  | .webhook | .gotify => .member ["message"]
  | .discord | .pushplus => .member ["content"]
  | .feishu => .member ["content", "text"]
  | .dingtalk | .wecom => .member ["text", "content"]
  | .bark => .member ["body"]
  | .pushover => .field "message"
  | .serverchan => .field "desp"
  | .ntfy | .email => .whole

/-- What the service of a kind is to show of a message: all of it, but for Discord, which takes no more
than so many characters. -/
def ChannelType.shown (type : ChannelType) (message : String) : String :=
  if type = .discord then Text.truncated DiscordSettings.maxLength message else message

namespace Text

variable {limit : Nat} {s : String}

theorem truncated_of_le (short : s.length ≤ limit) : truncated limit s = s := if_pos short

theorem toList_truncated_of_lt (long : limit < s.length) :
    (truncated limit s).toList = s.toList.take (limit - 1) ++ ['…'] := by
  rw [truncated, if_neg (Nat.not_le_of_gt long), String.toList_ofList]

theorem length_truncated_le (pos : 0 < limit) : (truncated limit s).length ≤ limit := by
  by_cases short : s.length ≤ limit
  · rwa [truncated_of_le short]
  · rw [← String.length_toList, toList_truncated_of_lt (Nat.gt_of_not_le short),
      List.length_append, List.length_take, List.length_singleton]
    omega

end Text

/-! ### Bodies -/

namespace Body

/-- The octets that are sent. -/
def octets (b : Body) : List UInt8 := Utf8.bytes b.toText

theorem read?_json {path : List String} {v : Json} {message : String}
    (faithful : v.Faithful Json.maxDepth) (found : v.textAt? path = some message) :
    (MessagePlace.member path).read? (json v).octets = some message := by
  simp only [MessagePlace.read?, octets, Utf8.decode?_bytes, toText, faithful.parse?_toText, found,
    Option.bind_eq_bind, Option.bind_some]

/-- The message is a member of the object. -/
theorem read?_object {name message : String} {members : List (String × Json)}
    (faithful : ∀ m ∈ members, m.2.Faithful (Json.maxDepth - 1))
    (found : members.reverse.lookup name = some (.str message)) :
    (MessagePlace.member [name]).read? (json (Json.object members)).octets = some message := by
  refine read?_json (.object (by decide) faithful) ?_
  rw [Json.textAt?, Json.get?_object, found]
  rfl

/-- The message is the only member of an object in the object. -/
theorem read?_nested {outer inner message : String} {members : List (String × Json)}
    (faithful : ∀ m ∈ members, m.2.Faithful (Json.maxDepth - 1))
    (found : members.reverse.lookup outer = some (Json.object [(inner, .str message)])) :
    (MessagePlace.member [outer, inner]).read? (json (Json.object members)).octets =
      some message := by
  refine read?_json (.object (by decide) faithful) ?_
  rw [Json.textAt?, Json.get?_object, found, Option.bind_some, Json.textAt?, Json.get?_object]
  simp [Json.textAt?, Json.str?]

theorem read?_form {name message : String} {fields : List (String × String)}
    (found : fields.lookup name = some message) :
    (MessagePlace.field name).read? (form fields).octets = some message := by
  simp only [MessagePlace.read?, octets, Utf8.decode?_bytes, toText, Form.toText,
    String.toList_ofList, Form.read?_chars, found, Option.bind_eq_bind, Option.bind_some]

theorem read?_text (message : String) :
    MessagePlace.whole.read? (text message).octets = some message := by
  simp only [MessagePlace.read?, octets, Utf8.decode?_bytes, toText, Option.bind_eq_bind,
    Option.bind_some]

end Body

/-! ### Senders -/

/-- The request of whatever call an attempt comes to holds a message at a place. -/
def Carries (attempt : Except ChannelError ServiceCall) (place : MessagePlace) (message : String) :
    Prop :=
  ∀ call, attempt = .ok call → place.read? call.draft.body.octets = some message

namespace Carries

variable {place : MessagePlace} {message : String}

/-- Something is read or checked before the call is made. -/
theorem bind {x : Except ChannelError α} {next : α → Except ChannelError ServiceCall}
    (each : ∀ a, Carries (next a) place message) : Carries (x >>= next) place message := by
  intro call called
  cases x with
  | error e => cases called
  | ok a => exact each a call called

theorem pure {call : ServiceCall} (read : place.read? call.draft.body.octets = some message) :
    Carries (.ok call) place message := by
  rintro _ ⟨⟩
  exact read

end Carries

/-! ### What the services send -/

section Bodies

open Json

variable {message : String}

theorem TelegramSettings.read?_body (s : TelegramSettings) :
    (MessagePlace.member ["text"]).read? (Body.json (s.body message)).octets = some message :=
  Body.read?_object (by simp) rfl

theorem WebhookSettings.read?_body {channelId : Int} (id : Width.IsInt64 channelId)
    (now : Instant) :
    (MessagePlace.member ["message"]).read? (Body.json (body channelId now message)).octets =
      some message :=
  Body.read?_object (by simp [Faithful.int64 id]) rfl

theorem DiscordSettings.read?_body (s : DiscordSettings) :
    (MessagePlace.member ["content"]).read? (Body.json (s.body message)).octets =
      some (Text.truncated maxLength message) := by
  cases given : s.username <;> exact Body.read?_object (by simp [given]) (by rw [given]; rfl)

theorem Slack.read?_body :
    (MessagePlace.member ["text"]).read? (Body.json (body message)).octets = some message :=
  Body.read?_object (by simp) rfl

theorem Teams.read?_body :
    (MessagePlace.member ["text"]).read? (Body.json (body message)).octets = some message :=
  Body.read?_object (by simp) rfl

/-- An object with the message alone may stand in another. -/
theorem faithful_single (name : String) :
    (object [(name, .str message)]).Faithful (maxDepth - 1) :=
  .object (by decide) (by simp)

theorem Dingtalk.read?_body :
    (MessagePlace.member ["text", "content"]).read? (Body.json (body message)).octets =
      some message :=
  Body.read?_nested (by simp [faithful_single]) rfl

theorem Feishu.read?_body (s : SignedRoomSettings) (time : Int) :
    (MessagePlace.member ["content", "text"]).read? (Body.json (body s time message)).octets =
      some message := by
  unfold body
  cases s.signingSecret? <;> exact Body.read?_nested (by simp [faithful_single]) rfl

theorem GotifySettings.read?_body (s : GotifySettings) :
    (MessagePlace.member ["message"]).read? (Body.json (s.body message)).octets = some message := by
  have priority : Width.IsInt64 s.priority.toNat := by
    have := s.priority.toNat_lt
    constructor <;> simp only [Width.minInt64, Width.maxInt64] <;> omega
  exact Body.read?_object (by simp [Faithful.int64 priority]) rfl

theorem PushoverSettings.read?_form (s : PushoverSettings) :
    (MessagePlace.field "message").read? (Body.form (s.form message)).octets = some message :=
  Body.read?_form rfl

theorem BarkSettings.read?_body (s : BarkSettings) :
    (MessagePlace.member ["body"]).read? (Body.json (s.body message)).octets = some message := by
  cases given : s.group <;> exact Body.read?_object (by simp [given]) (by rw [given]; rfl)

theorem ServerchanSettings.read?_form :
    (MessagePlace.field "desp").read? (Body.form (form message)).octets = some message :=
  Body.read?_form rfl

theorem PushplusSettings.read?_body (s : PushplusSettings) :
    (MessagePlace.member ["content"]).read? (Body.json (s.body message)).octets = some message := by
  cases given : s.topic <;> exact Body.read?_object (by simp [given]) (by rw [given]; rfl)

end Bodies

/-! ### Every kind -/

/-- **Every sender's request holds the message where its service looks for it.** -/
theorem Channel.carries_call? {c : Channel} (id : Width.IsInt64 c.id) {now : Instant}
    {message : String} {attempt : Except ChannelError ServiceCall}
    (called : c.call? now message = some attempt) :
    Carries attempt c.type.messagePlace (c.type.shown message) := by
  obtain ⟨id, userId, type, enabled, config, template⟩ := c
  cases type with
  | email => cases called
  | telegram =>
    cases called
    exact .bind fun s => .bind fun _ => .bind fun _ => .pure s.read?_body
  | webhook =>
    cases called
    exact .bind fun s => .bind fun _ => .bind fun _ => .pure (WebhookSettings.read?_body id now)
  | discord =>
    cases called
    exact .bind fun s => .bind fun _ => .pure s.read?_body
  | slack =>
    cases called
    exact .bind fun s => .bind fun _ => .pure Slack.read?_body
  | teams =>
    cases called
    exact .bind fun s => .bind fun _ => .pure Teams.read?_body
  | ntfy =>
    cases called
    exact .bind fun s => .bind fun _ => .pure (Body.read?_text message)
  | gotify =>
    cases called
    exact .bind fun s => .bind fun _ => .bind fun _ => .pure s.read?_body
  | pushover =>
    cases called
    exact .bind fun s => .bind fun _ => .bind fun _ => .pure s.read?_form
  | bark =>
    cases called
    exact .bind fun s => .bind fun _ => .pure s.read?_body
  | feishu =>
    cases called
    exact .bind fun s => .bind fun _ => .pure (Feishu.read?_body s _)
  | dingtalk | wecom =>
    cases called
    exact .bind fun s => .bind fun _ => .pure Dingtalk.read?_body
  | serverchan =>
    cases called
    exact .bind fun s => .bind fun _ => .pure ServerchanSettings.read?_form
  | pushplus =>
    cases called
    exact .bind fun s => .bind fun _ => .pure s.read?_body

/-- A request that is built carries the body of its draft. -/
theorem RequestDraft.body_of_build {d : RequestDraft} {request : Request}
    (built : d.build = .ok request) : request.body = d.body := by
  unfold build at built
  split at built
  · cases built
  · dsimp only at built
    split_ifs at built
    all_goals
      cases built
      rfl

theorem ServiceCall.body_of_mem_perform {call : ServiceCall} {network : Request → Option Reply}
    {request : Request} (mem : request ∈ (call.perform network).requests) :
    request.body = call.draft.body := by
  unfold perform at mem
  split at mem
  · cases mem
  · rename_i built
    cases List.mem_singleton.mp mem
    exact RequestDraft.body_of_build built

namespace Registry

variable {registry : Registry} {network : Network} {now : Instant} {c : Channel}
  {message hint : String} {request : Request}

theorem read?_of_mem_requests (id : Width.IsInt64 c.id)
    (mem : request ∈ (registry.send network now c message hint).requests) :
    c.type.messagePlace.read? request.body.octets = some (c.type.shown message) := by
  unfold send Channel.send at mem
  split at mem
  · split at mem
    · cases mem
    · cases mem
    · rename_i called
      rw [ServiceCall.body_of_mem_perform mem]
      exact Channel.carries_call? id called _ rfl
  · cases mem

/-- **The message arrives as it is.** Whatever the message and the settings of the channel are, and
whatever the network replies, the service that reads the body of a request in its own way finds the
message. Only Discord may find less of it: a message of more than 2000 characters ends after 1999 of
them in an ellipsis. -/
theorem message_arrives (registry : Registry) (network : Network) (now : Instant) (c : Channel)
    (id : Width.IsInt64 c.id) (message hint : String) (request : Request)
    (mem : request ∈ (registry.send network now c message hint).requests) :
    ∃ shown, c.type.messagePlace.read? request.body.octets = some shown ∧
      (c.type ≠ .discord → shown = message) ∧
      (c.type = .discord →
        (message.length ≤ 2000 → shown = message) ∧
        (2000 < message.length → shown.toList = message.toList.take 1999 ++ ['…']) ∧
        shown.length ≤ 2000) := by
  refine ⟨_, read?_of_mem_requests id mem, ?_, ?_⟩
  · exact fun other => if_neg other
  · intro discord
    have cut : c.type.shown message = Text.truncated 2000 message := if_pos discord
    rw [cut]
    exact ⟨Text.truncated_of_le, Text.toList_truncated_of_lt, Text.length_truncated_le (by decide)⟩

end Registry

namespace Sample

/-- A user of Pushover. -/
def phone : Channel :=
  ⟨1, 1, .pushover, true, .obj [("app_token", .str "app"), ("user_key", .str "ada")], none⟩

/-- A message with a sign in it for everything that a form writes in another way. -/
def awkward : String := "Tea & cake: \"2+2=4\"\n100 % für Ada\x00"

end Sample

/-- Ampersands, quotes and plus signs reach a telephone. -/
theorem Registry.message_arrives_sample :
    ∃ request, (Registry.send ChannelType.all (Sample.answering 200) Sample.morning Sample.phone
        Sample.awkward "").requests = [request] ∧
      (MessagePlace.field "message").read? request.body.octets = some Sample.awkward := by
  have once : (Registry.send ChannelType.all (Sample.answering 200) Sample.morning Sample.phone
      Sample.awkward "").requests.length = 1 := by decide +kernel
  obtain ⟨request, requests⟩ := List.length_eq_one_iff.mp once
  obtain ⟨shown, read, whole, -⟩ := Registry.message_arrives ChannelType.all
    (Sample.answering 200) Sample.morning Sample.phone (by decide) Sample.awkward "" request
    (requests ▸ List.mem_singleton_self request)
  rw [whole (by decide)] at read
  exact ⟨request, requests, read⟩

end Reminders
