import Reminders.Delivery.Send
import Reminders.Failure
import Reminders.Proofs.Store.Query

/-!
What comes of sending.

Fourteen kinds of channels are served by a request each. Every sender reads its settings, refuses
some that are blank, makes its request and judges the reply, and the kinds differ in which settings
must not be blank and in what they take for success. `Channel.IsReady` and `Reply.IsTakenBy` say
both, kind by kind, without the senders.

* `Calls`: a sender makes its call exactly when it is ready, and judges replies by a rule.
* `Channel.calls_call?`: every sender does so by `IsReady` and `IsTakenBy`.
* `Registry.send_outcome`
-/

namespace Reminders

open Text (IsBlankText)

/-! ### What a sender needs -/

/-- The method is one that carries a message, whatever the case of its letters and the blanks around
it. -/
def WebhookSettings.HasMethod (s : WebhookSettings) : Prop :=
  Text.upperAscii (Text.trim s.method) ∈ ["POST", "PUT", "PATCH"]

/-- The settings of a channel can be read and give what the sender of its kind needs. A letter is not
sent by a request. -/
def Channel.IsReady (c : Channel) : Prop :=
  match c.type with
  | .email => False
  | .telegram => ∃ s, TelegramSettings.ofJson c.config = .ok s ∧
      ¬IsBlankText s.botToken ∧ ¬IsBlankText s.chatId
  | .webhook => ∃ s, WebhookSettings.ofJson c.config = .ok s ∧ ¬IsBlankText s.url ∧ s.HasMethod
  | .discord => ∃ s, DiscordSettings.ofJson c.config = .ok s ∧ ¬IsBlankText s.webhookUrl
  | .slack => ∃ s, RoomSettings.ofJson "struct SlackConfig" c.config = .ok s ∧
      ¬IsBlankText s.webhookUrl
  | .teams => ∃ s, RoomSettings.ofJson "struct TeamsConfig" c.config = .ok s ∧
      ¬IsBlankText s.webhookUrl
  | .wecom => ∃ s, RoomSettings.ofJson "struct WecomConfig" c.config = .ok s ∧
      ¬IsBlankText s.webhookUrl
  | .feishu => ∃ s, SignedRoomSettings.ofJson "struct FeishuConfig" c.config = .ok s ∧
      ¬IsBlankText s.webhookUrl
  | .dingtalk => ∃ s, SignedRoomSettings.ofJson "struct DingtalkConfig" c.config = .ok s ∧
      ¬IsBlankText s.webhookUrl
  | .ntfy => ∃ s, NtfySettings.ofJson c.config = .ok s ∧ ¬IsBlankText s.topic
  | .gotify => ∃ s, GotifySettings.ofJson c.config = .ok s ∧
      ¬IsBlankText s.server ∧ ¬IsBlankText s.appToken
  | .pushover => ∃ s, PushoverSettings.ofJson c.config = .ok s ∧
      ¬IsBlankText s.appToken ∧ ¬IsBlankText s.userKey
  | .bark => ∃ s, BarkSettings.ofJson c.config = .ok s ∧ ¬IsBlankText s.deviceKey
  | .serverchan => ∃ s, ServerchanSettings.ofJson c.config = .ok s ∧ ¬IsBlankText s.sendKey
  | .pushplus => ∃ s, PushplusSettings.ofJson c.config = .ok s ∧ ¬IsBlankText s.token

/-! ### What a service takes for success -/

/-- An object with one member `ok`, which is true, and at most one description, a string or null; or
an array of these two. -/
def Json.Outline.SaysOk : Json.Outline → Prop
  | .members list => Json.valuesOf "ok" list = ["true".toList] ∧
      (Json.valuesOf "description" list = [] ∨ ∃ raw text,
        Json.valuesOf "description" list = [raw] ∧ Json.textOrNull? raw = some text)
  | .items list => ∃ raw text, list = ["true".toList, raw] ∧ Json.textOrNull? raw = some text

namespace Reply

/-- The body says that all went well. -/
def SaysOk (r : Reply) : Prop := ∃ outline, Json.outline? r.body = some outline ∧ outline.SaysOk

/-- The body is JSON, and its code, if it has one that is an integer of 64 bits, is that of
success. -/
def HasCode (r : Reply) (field : String) (success : Int) : Prop :=
  ∃ v, r.json? = some v ∧
    ∀ code, v.get? field = some (.int code) → Width.IsInt64 code → code = success

/-- A service takes a reply for success. -/
def IsTakenBy (r : Reply) : ChannelType → Prop
  | .email => False
  | .telegram => r.SaysOk
  | .webhook | .discord | .slack | .teams | .ntfy | .gotify | .pushover => r.IsSuccess
  | .bark | .pushplus => r.IsSuccess ∧ r.HasCode "code" 200
  | .feishu | .serverchan => r.IsSuccess ∧ r.HasCode "code" 0
  | .dingtalk | .wecom => r.IsSuccess ∧ r.HasCode "errcode" 0

variable {r : Reply} {service field : String} {success : Int}

theorem requireSuccess_eq_ok_iff : r.requireSuccess service = .ok () ↔ r.IsSuccess := by
  unfold requireSuccess
  by_cases h : r.IsSuccess <;> simp [h]

theorem int64?_eq_some_iff {v : Json} {n : Int} :
    v.int64? = some n ↔ v = .int n ∧ Width.IsInt64 n := by
  cases v with
  | int m =>
    simp only [Json.int64?, Option.ite_none_right_eq_some, Option.some.injEq, Json.int.injEq]
    constructor
    · rintro ⟨fits, rfl⟩
      exact ⟨rfl, fits⟩
    · rintro ⟨rfl, fits⟩
      exact ⟨fits, rfl⟩
  | _ => simp [Json.int64?]

theorem requireCode_eq_ok_iff :
    r.requireCode service field success = .ok () ↔ r.HasCode field success := by
  unfold requireCode HasCode
  cases r.json? with
  | none => simp
  | some v =>
    simp only [Option.some.injEq, exists_eq_left']
    cases given : (v.get? field).bind Json.int64? with
    | none =>
      simp only [true_iff]
      intro code found fits
      rw [found, Option.bind_some, int64?_eq_some_iff.mpr ⟨rfl, fits⟩] at given
      cases given
    | some code =>
      obtain ⟨_, found, read⟩ := Option.bind_eq_some_iff.mp given
      obtain ⟨rfl, fits⟩ := int64?_eq_some_iff.mp read
      have only (other : Int) (h : v.get? field = some (.int other)) : other = code := by
        cases found.symm.trans h
        rfl
      by_cases same : code = success
      · simp only [same, if_true, true_iff]
        exact fun other h _ => (only other h).trans same
      · simp only [same, if_false, reduceCtorEq, false_iff]
        exact fun all => same (all code found fits)

theorem requireBoth_eq_ok_iff :
    r.requireBoth service field success = .ok () ↔ r.IsSuccess ∧ r.HasCode field success := by
  unfold requireBoth
  rw [except_bind_eq_ok_iff]
  constructor
  · rintro ⟨⟨⟩, status, code⟩
    exact ⟨requireSuccess_eq_ok_iff.mp status, requireCode_eq_ok_iff.mp code⟩
  · rintro ⟨status, code⟩
    exact ⟨(), requireSuccess_eq_ok_iff.mpr status, requireCode_eq_ok_iff.mpr code⟩

end Reply

namespace TelegramSettings

theorem boolOf?_eq_true_iff {raw : List Char} :
    Json.boolOf? raw = some true ↔ raw = "true".toList := by
  unfold Json.boolOf?
  by_cases yes : raw = "true".toList
  · simp only [yes, if_true]
  · simp only [yes, if_false, iff_false]
    split <;> simp

/-- What an outline must say to be taken. -/
theorem exists_reading?_iff {outline : Json.Outline} :
    (∃ text, reading? outline = some (true, text)) ↔ outline.SaysOk := by
  unfold reading? Json.Outline.SaysOk
  cases outline with
  | members members =>
    simp only
    generalize Json.valuesOf "ok" members = oks
    generalize Json.valuesOf "description" members = descriptions
    match oks, descriptions with
    | [], _ => simp
    | [ok], [] => simp [Option.bind_eq_some_iff, boolOf?_eq_true_iff]
    | [ok], [description] => simp [Option.bind_eq_some_iff, boolOf?_eq_true_iff]
    | [ok], _ :: _ :: _ => simp
    | _ :: _ :: _, _ => simp
  | items items =>
    match items with
    | [] | [_] | _ :: _ :: _ :: _ => simp
    | [ok, description] => simp [Option.bind_eq_some_iff, boolOf?_eq_true_iff]

/-- What a reply must say to be taken. -/
theorem accept_eq_ok_iff {r : Reply} : accept r = .ok () ↔ r.SaysOk := by
  unfold accept Reply.SaysOk
  cases Json.outline? r.body with
  | none => simp
  | some outline =>
    simp only [Option.bind_some, Option.some.injEq, exists_eq_left', ← exists_reading?_iff]
    cases reading? outline with
    | none => simp
    | some said =>
      obtain ⟨ok, text⟩ := said
      cases ok <;> simp

end TelegramSettings

/-! ### Senders -/

/-- An attempt at a call comes to one exactly when the sender is ready, and then replies are judged by
a rule. -/
structure Calls (attempt : Except ChannelError ServiceCall) (ready : Prop) (takes : Reply → Prop) :
    Prop where
  ready_iff : (∃ call, attempt = .ok call) ↔ ready
  takes_iff : ∀ call, attempt = .ok call → ∀ r, call.accept r = .ok () ↔ takes r

namespace Calls

variable {attempt : Except ChannelError ServiceCall} {ready : Prop} {takes : Reply → Prop}
  {service setting value : String}

theorem requireText_eq_ok_iff : requireText service setting value = .ok () ↔ ¬IsBlankText value := by
  unfold requireText
  by_cases h : IsBlankText value <;> simp [h]

/-- Something is read, and with it the sender goes on. -/
theorem bind {x : Except ChannelError α} {next : α → Except ChannelError ServiceCall}
    {readyFor : α → Prop} (each : ∀ a, Calls (next a) (readyFor a) takes) :
    Calls (x >>= next) (∃ a, x = .ok a ∧ readyFor a) takes where
  ready_iff := by
    simp only [except_bind_eq_ok_iff, ← (each _).ready_iff]
    constructor
    · rintro ⟨call, a, read, called⟩
      exact ⟨a, read, call, called⟩
    · rintro ⟨a, read, call, called⟩
      exact ⟨call, a, read, called⟩
  takes_iff := by
    intro call called
    obtain ⟨a, -, called⟩ := except_bind_eq_ok_iff.mp called
    exact (each a).takes_iff call called

theorem congr (calls : Calls attempt ready takes) {other : Prop} (same : ready ↔ other) :
    Calls attempt other takes :=
  ⟨calls.ready_iff.trans same, calls.takes_iff⟩

/-- A call that is made whatever is given. -/
theorem always {call : ServiceCall} (judges : ∀ r, call.accept r = .ok () ↔ takes r) :
    Calls (pure call) True takes where
  ready_iff := iff_true_intro ⟨call, rfl⟩
  takes_iff := by
    intro _ same
    cases same
    exact judges

/-- A setting that must not be blank comes before the rest. -/
theorem unlessBlank (rest : Calls attempt ready takes) :
    Calls (requireText service setting value >>= fun _ => attempt) (¬IsBlankText value ∧ ready)
      takes :=
  (bind fun _ => rest).congr
    ⟨fun ⟨_, given, ready⟩ => ⟨requireText_eq_ok_iff.mp given, ready⟩,
      fun ⟨given, ready⟩ => ⟨(), requireText_eq_ok_iff.mpr given, ready⟩⟩

/-- A setting that must not be blank is the only condition. -/
theorem ifGiven {call : ServiceCall} (judges : ∀ r, call.accept r = .ok () ↔ takes r) :
    Calls (requireText service setting value >>= fun _ => pure call) (¬IsBlankText value) takes :=
  (unlessBlank (always judges)).congr (and_true _).to_iff

/-- The settings of a channel are read, and the sender goes on with them. -/
theorem settings {c : Channel} {decoder : Decoder α} {next : α → Except ChannelError ServiceCall}
    {readyFor : α → Prop} (each : ∀ s, Calls (next s) (readyFor s) takes) :
    Calls (c.settings decoder >>= next) (∃ s, decoder c.config = .ok s ∧ readyFor s) takes := by
  apply (bind each).congr
  unfold Channel.settings
  cases decoder c.config <;> simp [Except.mapError]

theorem exists_parseMethod_iff {name : String} :
    (∃ m, WebhookSettings.parseMethod name = .ok m) ↔
      Text.upperAscii (Text.trim name) ∈ ["POST", "PUT", "PATCH"] := by
  have known : (HttpMethod.ofText? (Text.upperAscii (Text.trim name))).isSome ↔
      Text.upperAscii (Text.trim name) ∈ ["POST", "PUT", "PATCH"] := by
    unfold HttpMethod.ofText?
    rw [List.find?_isSome]
    simp [HttpMethod.all, HttpMethod.toText, eq_comm]
  rw [← known]
  unfold WebhookSettings.parseMethod
  dsimp only
  cases HttpMethod.ofText? (Text.upperAscii (Text.trim name)) <;> simp

/-- The method of a web hook is read, and the call is made with it. -/
theorem byMethod {name : String} {next : HttpMethod → ServiceCall}
    (judges : ∀ m r, (next m).accept r = .ok () ↔ takes r) :
    Calls (WebhookSettings.parseMethod name >>= fun m => pure (next m))
      (Text.upperAscii (Text.trim name) ∈ ["POST", "PUT", "PATCH"]) takes := by
  apply (bind fun m => always (judges m)).congr
  simp only [and_true]
  exact exists_parseMethod_iff

end Calls

/-- **Every sender is ready and judges replies as its kind says.** -/
theorem Channel.calls_call? (c : Channel) (http : c.type ≠ .email) (now : Instant)
    (message : String) : ∃ attempt, c.call? now message = some attempt ∧
      Calls attempt c.IsReady fun r => r.IsTakenBy c.type := by
  obtain ⟨id, userId, type, enabled, config, template⟩ := c
  cases type with
  | email => exact absurd rfl http
  | telegram =>
    exact ⟨_, rfl, .settings fun _ => .unlessBlank <| .ifGiven fun _ =>
      TelegramSettings.accept_eq_ok_iff⟩
  | webhook =>
    exact ⟨_, rfl, .settings fun _ => .unlessBlank <| .byMethod fun _ _ =>
      Reply.requireSuccess_eq_ok_iff⟩
  | discord | slack | teams | ntfy =>
    exact ⟨_, rfl, .settings fun _ => .ifGiven fun _ => Reply.requireSuccess_eq_ok_iff⟩
  | gotify | pushover =>
    exact ⟨_, rfl, .settings fun _ => .unlessBlank <| .ifGiven fun _ =>
      Reply.requireSuccess_eq_ok_iff⟩
  | bark | feishu | dingtalk | wecom | serverchan | pushplus =>
    exact ⟨_, rfl, .settings fun _ => .ifGiven fun _ => Reply.requireBoth_eq_ok_iff⟩

/-! ### Sending over a registry -/

namespace ServiceCall

/-- A call that ends well has got a reply that it takes. -/
theorem result_perform_eq_ok_iff {call : ServiceCall} {network : Request → Option Reply} :
    (call.perform network).result = .ok () ↔ ∃ request reply,
      (call.perform network).requests = [request] ∧ network request = some reply ∧
        call.accept reply = .ok () := by
  unfold perform
  cases call.draft.build with
  | error e => simp [Outcome.refused]
  | ok request =>
    cases answered : network request with
    | none => simp [answered]
    | some reply => simp [answered]

end ServiceCall

namespace Registry

variable {registry : Registry} {network : Network} {now : Instant} {c : Channel}
  {message hint : String}

/-- **What comes of sending.** Over a kind of channel that is served by requests, nothing is requested
and sending fails when the kind is not registered or the sender is not ready. Whatever the network
replies, no more than one request is made and a failure is one of the channel. Sending ends well
exactly when a request was made and got a reply that the service takes for success. -/
theorem send_outcome (registry : Registry) (network : Network) (now : Instant) (c : Channel)
    (http : c.type ≠ .email) (message hint : String) :
    (¬(c.type ∈ registry ∧ c.IsReady) →
      (registry.send network now c message hint).requests = [] ∧
        ∃ e, (registry.send network now c message hint).result = .error e) ∧
    (registry.send network now c message hint).requests.length ≤ 1 ∧
    (∀ e, (registry.send network now c message hint).result = .error e →
      (Failure.channel e).message = "channel error: " ++ e.message) ∧
    ((registry.send network now c message hint).result = .ok () ↔ ∃ request reply,
      (registry.send network now c message hint).requests = [request] ∧
        network.reply request = some reply ∧ reply.IsTakenBy c.type) := by
  obtain ⟨attempt, called, calls⟩ := c.calls_call? http now message
  refine ⟨?_, length_requests_send_le .., fun _ _ => rfl, ?_⟩
  all_goals
    unfold send Channel.send
    rw [called]
  · intro notReady
    by_cases registered : c.type ∈ registry
    · rw [if_pos registered]
      cases attempt with
      | error e => exact ⟨rfl, e, rfl⟩
      | ok call => exact absurd ⟨registered, calls.ready_iff.mp ⟨call, rfl⟩⟩ notReady
    · rw [if_neg registered]
      exact ⟨rfl, _, rfl⟩
  · by_cases registered : c.type ∈ registry
    · rw [if_pos registered]
      cases attempt with
      | error e => simp [Outcome.refused]
      | ok call =>
        simp only [ServiceCall.result_perform_eq_ok_iff, calls.takes_iff call rfl]
    · simp [registered, Outcome.refused]

end Registry

namespace Sample

/-- A topic of ntfy. -/
def topic : Channel := ⟨1, 1, .ntfy, true, .obj [("topic", .str "music")], none⟩

/-- A network in which every reply has a status. -/
def answering (status : Nat) : Network := ⟨fun _ => some ⟨status, []⟩, fun _ _ => true⟩

/-- The start of the first day. -/
def morning : Instant := .startOf .first

end Sample

/-- A message to a topic is sent when the status of the reply is one of success. -/
theorem Registry.send_outcome_sample :
    (Registry.send ChannelType.all (Sample.answering 204) Sample.morning Sample.topic "Music" ""
      ).result = .ok () ∧
    (Registry.send ChannelType.all (Sample.answering 302) Sample.morning Sample.topic "Music" ""
      ).result ≠ .ok () := by
  constructor
  · obtain ⟨-, -, -, ends⟩ := Registry.send_outcome ChannelType.all (Sample.answering 204)
      Sample.morning Sample.topic (by decide) "Music" ""
    have once : (Registry.send ChannelType.all (Sample.answering 204) Sample.morning Sample.topic
        "Music" "").requests.length = 1 := by decide +kernel
    obtain ⟨request, requests⟩ := List.length_eq_one_iff.mp once
    have success : Reply.IsSuccess ⟨204, []⟩ := by decide
    exact ends.mpr ⟨request, _, requests, rfl, success⟩
  · obtain ⟨-, -, -, ends⟩ := Registry.send_outcome ChannelType.all (Sample.answering 302)
      Sample.morning Sample.topic (by decide) "Music" ""
    intro sent
    obtain ⟨request, reply, -, answered, success⟩ := ends.mp sent
    cases answered
    exact absurd success.2 (by decide)

end Reminders
