import Reminders.Delivery.ChannelError

/-!
Services.

A service takes a message by one request. A `ServiceCall` is that request with the rule by which the
reply is judged; `ServiceCall.perform` makes it over a network. Whatever goes wrong, no more than one
request is made.
-/

namespace Reminders

/-- The title of messages that have one. -/
def reminderTitle : String := "Renewly reminder"

/-- Refuses a blank setting. -/
def requireText (service setting value : String) : Except ChannelError Unit :=
  if Text.IsBlankText value then .error (.blank service setting) else .ok ()

namespace Reply

/-- Refuses a status other than success. -/
def requireSuccess (service : String) (r : Reply) : Except ChannelError Unit :=
  if r.IsSuccess then .ok () else .error (.badStatus service (Status.text r.status) r.snippet)

/-- Refuses a code in the reply that is not the one of success. A reply without a code is taken. -/
def requireCode (service field : String) (success : Int) (r : Reply) : Except ChannelError Unit :=
  match r.json? with
  | none => .error (.request (service ++ ": invalid response") .unreadable)
  | some v =>
    match (v.get? field).bind Json.int64? with
    | none => .ok ()
    | some code =>
      if code = success then .ok ()
      else
        let text (name : String) := (v.get? name).bind Json.str?
        .error (.refused service code (((text "errmsg").or (text "msg")).getD ""))

/-- Takes a reply of success whose code, if there is one, is that of success. -/
def requireBoth (service field : String) (success : Int) (r : Reply) : Except ChannelError Unit := do
  r.requireSuccess service
  r.requireCode service field success

end Reply

/-- What came of sending: the requests that were made, and how it ended. -/
structure Outcome where
  requests : List Request
  result : Except ChannelError Unit

namespace Outcome

/-- An end without a request. -/
def refused (e : ChannelError) : Outcome := ⟨[], .error e⟩

end Outcome

/-- A request to a service, and how its reply is judged. -/
structure ServiceCall where
  draft : RequestDraft
  /-- What is done, as an error begins. -/
  doing : String
  accept : Reply → Except ChannelError Unit

namespace ServiceCall

/-- Makes the request. The network gives a reply or none. -/
def perform (network : Request → Option Reply) (call : ServiceCall) : Outcome :=
  match call.draft.build with
  | .error e => .refused (.request call.doing e)
  | .ok request =>
    { requests := [request]
      result := match network request with
        | none => .error (.request call.doing (.noReply request.url.toText))
        | some reply => call.accept reply }

/-- No more than one request is made. -/
theorem length_requests_perform_le (network : Request → Option Reply) (call : ServiceCall) :
    (call.perform network).requests.length ≤ 1 := by
  unfold perform
  split <;> simp [Outcome.refused]

end ServiceCall

end Reminders
