import Reminders.Proofs.Channel.Outcome
import Reminders.Proofs.Text.Utf8

/-!
Codes in the replies of services.

Six services may answer with a status of success and say by a code in the body that they have not
taken the message. Only a code that is an integer of 64 bits is compared with the one of success.
Any other value stands for no code at all, and the reply is taken.

* `ChannelType.answerCode?`: the services that answer with a code.
* `Channel.accept_eq`: they judge a reply by its status and its code.
* `Registry.exists_accept`: once a request has got its reply, sending ends as the reply is judged.
* `Registry.codes_are_integers`, with `Registry.other_codes_are_taken`
-/

namespace Reminders

/-- Where the replies of a service have their code. -/
structure AnswerCode where
  service : String
  field : String
  /-- The code of success. -/
  success : Int

/-- The code in the replies of the service behind a kind of channel. -/
def ChannelType.answerCode? : ChannelType → Option AnswerCode
  | .bark => some ⟨"Bark", "code", 200⟩
  | .feishu => some ⟨"Feishu", "code", 0⟩
  | .dingtalk => some ⟨"DingTalk", "errcode", 0⟩
  | .wecom => some ⟨"WeCom", "errcode", 0⟩
  | .serverchan => some ⟨"ServerChan", "code", 0⟩
  | .pushplus => some ⟨"PushPlus", "code", 200⟩
  | .email | .telegram | .webhook | .discord | .slack | .teams | .ntfy | .gotify | .pushover => none

/-- Why a service has not taken a message, as far as its reply says so. -/
def Json.failureText (v : Json) : String :=
  (((v.get? "errmsg").bind str?).or ((v.get? "msg").bind str?)).getD ""

/-- The body carries the code of a failure: an integer of 64 bits other than that of success. -/
def Json.Fails (v : Json) (code : AnswerCode) (n : Int) : Prop :=
  v.get? code.field = some (.int n) ∧ Width.IsInt64 n ∧ n ≠ code.success

/-! ### Judging a reply -/

namespace Reply

variable {r : Reply} {v : Json} {code : AnswerCode} {n : Int}

/-- A code of failure is refused, with the reason that the reply gives. -/
theorem requireBoth_of_fails (status : r.IsSuccess) (body : r.json? = some v)
    (fails : v.Fails code n) : r.requireBoth code.service code.field code.success =
      .error (.refused code.service n v.failureText) := by
  obtain ⟨found, fits, different⟩ := fails
  unfold requireBoth
  rw [requireSuccess_eq_ok_iff.mpr status]
  change r.requireCode code.service code.field code.success = _
  unfold requireCode
  simp only [body, found, Option.bind_some, int64?_eq_some_iff.mpr ⟨rfl, fits⟩, if_neg different,
    Json.failureText]

/-- A reply without a code of failure is taken. -/
theorem requireBoth_of_not_fails (status : r.IsSuccess) (body : r.json? = some v)
    (passes : ∀ n, ¬v.Fails code n) :
    r.requireBoth code.service code.field code.success = .ok () := by
  refine requireBoth_eq_ok_iff.mpr ⟨status, v, body, fun n found fits => ?_⟩
  by_contra different
  exact passes n ⟨found, fits, different⟩

end Reply

/-- **The six services judge a reply by its status and its code.** -/
theorem Channel.accept_eq {c : Channel} {now : Instant} {message : String} {call : ServiceCall}
    {code : AnswerCode} (coded : c.type.answerCode? = some code)
    (called : c.call? now message = some (.ok call)) :
    call.accept = Reply.requireBoth code.service code.field code.success := by
  obtain ⟨id, userId, type, enabled, config, template⟩ := c
  cases type with
  | email | telegram | webhook | discord | slack | teams | ntfy | gotify | pushover => cases coded
  | bark | feishu | dingtalk | wecom | serverchan | pushplus =>
    cases coded
    obtain ⟨settings, -, called⟩ := except_bind_eq_ok_iff.mp (Option.some.inj called)
    obtain ⟨-, -, called⟩ := except_bind_eq_ok_iff.mp called
    cases called
    rfl

/-! ### Sending -/

namespace Registry

variable {registry : Registry} {network : Network} {now : Instant} {c : Channel}
  {message hint : String} {request : Request} {reply : Reply}

/-- **Once a request has got its reply**, sending ends as the reply is judged. -/
theorem exists_accept
    (requested : (registry.send network now c message hint).requests = [request])
    (replied : network.reply request = some reply) :
    ∃ call, c.call? now message = some (.ok call) ∧
      (registry.send network now c message hint).result = call.accept reply := by
  unfold send Channel.send at requested ⊢
  by_cases registered : c.type ∈ registry
  · rw [if_pos registered] at requested ⊢
    split at requested
    · cases requested
    · cases requested
    · rename_i call called
      refine ⟨call, called, ?_⟩
      unfold ServiceCall.perform at requested ⊢
      split at requested
      · cases requested
      · cases requested
        simp only [replied]
  · rw [if_neg registered] at requested
    cases requested

/-- **Codes are integers.** Let a service that answers with a code reply to a request with a status
of success and an object. When the code is an integer of 64 bits other than the code of success,
sending fails, and the error has the name of the service, the code and the reason that the reply
gives. With any other value in its place, and without one, sending ends well. -/
theorem codes_are_integers {code : AnswerCode} {members : List (String × Json)}
    (coded : c.type.answerCode? = some code)
    (requested : (registry.send network now c message hint).requests = [request])
    (replied : network.reply request = some reply) (status : reply.IsSuccess)
    (body : reply.json? = some (.obj members)) :
    (∀ n, (Json.obj members).Fails code n → ∃ e,
      (registry.send network now c message hint).result = .error e ∧
        (Failure.channel e).message = "channel error: " ++ (code.service ++ ": error " ++
          Numeral.ofInt n ++ ": " ++ (Json.obj members).failureText)) ∧
    ((registry.send network now c message hint).result = .ok () ↔
      ∀ n, ¬(Json.obj members).Fails code n) := by
  obtain ⟨call, called, ends⟩ := exists_accept requested replied
  rw [ends, Channel.accept_eq coded called]
  refine ⟨fun n fails => ⟨_, Reply.requireBoth_of_fails status body fails, rfl⟩, ?_,
    Reply.requireBoth_of_not_fails status body⟩
  intro taken n fails
  rw [Reply.requireBoth_of_fails status body fails] at taken
  cases taken

end Registry

namespace Sample

/-- A device of Bark. -/
def device : Channel := ⟨1, 1, .bark, true, .obj [("device_key", .str "k")], none⟩

/-- A network in which every reply has a status of success and a body. -/
def replying (body : String) : Network := ⟨fun _ => some ⟨200, Utf8.bytes body⟩, fun _ _ => true⟩

/-- What comes of a message to the device when the service replies with a body. -/
def pushed (body : String) : Outcome :=
  Registry.send ChannelType.all (replying body) morning device "Music" ""

end Sample

namespace Registry

/-- **Other codes are taken**: a numeral in a string, a number with a fraction, an integer of more
than 64 bits and a truth value are no codes, whatever failure they stand for. -/
theorem other_codes_are_taken :
    (Sample.pushed "\x7b\"code\": \"400\", \"msg\": \"bad key\"\x7d").result = .ok () ∧
      (Sample.pushed "\x7b\"code\": 400.0\x7d").result = .ok () ∧
      (Sample.pushed "\x7b\"code\": 9223372036854775808\x7d").result = .ok () ∧
      (Sample.pushed "\x7b\"code\": false\x7d").result = .ok () := by
  decide +kernel

/-- A code of failure is refused, and the code of success is taken. -/
theorem codes_are_integers_sample :
    (∃ e, (Sample.pushed "\x7b\"code\": 400, \"msg\": \"bad key\"\x7d").result = .error e ∧
      (Failure.channel e).message = "channel error: Bark: error 400: bad key") ∧
    (Sample.pushed "\x7b\"code\": 200\x7d").result = .ok () := by
  have coded : Sample.device.type.answerCode? = some ⟨"Bark", "code", 200⟩ := rfl
  have status (body : String) : Reply.IsSuccess ⟨200, Utf8.bytes body⟩ :=
    ⟨(by decide : 200 ≤ 200), (by decide : 200 < 300)⟩
  constructor
  · obtain ⟨request, requested⟩ : ∃ request, (Sample.pushed
        "\x7b\"code\": 400, \"msg\": \"bad key\"\x7d").requests = [request] :=
      List.length_eq_one_iff.mp (by decide +kernel)
    have body : Reply.json? ⟨200, Utf8.bytes "\x7b\"code\": 400, \"msg\": \"bad key\"\x7d"⟩ =
        some (.obj [("code", .int 400), ("msg", .str "bad key")]) := by
      rw [Reply.json?, Utf8.decode?_bytes]
      cbv
    obtain ⟨refused, -⟩ := codes_are_integers coded requested rfl (status _) body
    obtain ⟨e, failed, message⟩ := refused 400 ⟨rfl, by decide, by decide⟩
    exact ⟨e, failed, message.trans (by decide +kernel)⟩
  · obtain ⟨request, requested⟩ : ∃ request, (Sample.pushed
        "\x7b\"code\": 200\x7d").requests = [request] :=
      List.length_eq_one_iff.mp (by decide +kernel)
    have body : Reply.json? ⟨200, Utf8.bytes "\x7b\"code\": 200\x7d"⟩ =
        some (.obj [("code", .int 200)]) := by
      rw [Reply.json?, Utf8.decode?_bytes]
      cbv
    obtain ⟨-, taken⟩ := codes_are_integers coded requested rfl (status _) body
    refine taken.mpr ?_
    rintro n ⟨⟨⟩, -, different⟩
    exact different rfl

end Registry

end Reminders
