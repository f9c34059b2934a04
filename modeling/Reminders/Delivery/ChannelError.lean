import Reminders.Channel.Basic
import Reminders.Json.Decode
import Reminders.Mail.Mailbox
import Reminders.Web.Request

/-!
Why a message is not delivered.
-/

namespace Reminders

/-- Why a message is not delivered. -/
inductive ChannelError where
  /-- No sender is registered for this kind of channel. -/
  | unregistered (type : ChannelType)
  /-- The settings are not those of this kind of channel. -/
  | badSettings (type : ChannelType) (cause : DecodeError)
  /-- A setting that is needed is blank. -/
  | blank (service setting : String)
  /-- The method of a web hook is not one that carries a message. -/
  | badMethod (method : String)
  /-- The request failed. -/
  | request (doing : String) (cause : RequestError)
  /-- The reply has a status other than success. -/
  | badStatus (service status snippet : String)
  /-- The reply carries a code of failure. -/
  | refused (service : String) (code : Int) (reason : String)
  /-- The reply says that the message was not taken. -/
  | notTaken (doing reason : String)
  /-- There is nobody to write to. -/
  | noRecipient
  /-- An address of a letter cannot be read. -/
  | badAddress (role : String) (problem : AddressProblem)
  /-- The letter was not taken. -/
  | notMailed
  /-- The time for sending ran out. -/
  | timedOut (seconds : Nat)
  /-- Whatever else a sender reports. -/
  | reported (text : String)
deriving DecidableEq

/-- The wording of an error. -/
def ChannelError.message : ChannelError → String
  | unregistered type => "no sender registered for '" ++ type.tag ++ "'"
  | badSettings type cause => "invalid " ++ type.tag ++ " config: " ++ cause.message
  | blank service setting => service ++ ": '" ++ setting ++ "' is required"
  | badMethod method => "Webhook: unsupported method '" ++ method ++ "'"
  | request doing cause => doing ++ ": " ++ cause.message
  | badStatus service status snippet => service ++ ": HTTP " ++ status ++ ": " ++ snippet
  | refused service code reason =>
    service ++ ": error " ++ Numeral.ofInt code ++ ": " ++ reason
  | notTaken doing reason => doing ++ ": " ++ reason
  | noRecipient => "Email: no recipient address"
  | badAddress role problem => "Invalid " ++ role ++ ": " ++ problem.message
  | notMailed => "SMTP send"
  | timedOut seconds => "send timed out after " ++ Numeral.ofNat seconds ++ "s"
  | reported text => text

end Reminders
