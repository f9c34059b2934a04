import Reminders.Channel.Service
import Reminders.Json.Decode

/-!
Letters by email.

A letter goes to the address in the channel's settings or, if there is none, to the address that the
user is known by.
-/

namespace Reminders

/-- The settings of a mail server. -/
structure EmailSettings where
  smtpHost : String
  smtpPort : UInt16
  username : String
  password : String
  /-- The address of the sender. -/
  sender : String
  displayName : Option String
  /-- The address of the recipient, in place of the user's own. -/
  recipient : Option String

/-- A letter to be sent. -/
structure Letter where
  sender : Mailbox
  recipient : Mailbox
  subject : String
  text : String

namespace EmailSettings

/-- The fields of the settings. -/
def shape : Shape EmailSettings :=
  EmailSettings.mk
    <$> .required "smtp_host" Json.decodeString
    <*> .defaulted "smtp_port" Json.decodeWord16 587
    <*> .defaulted "username" Json.decodeString ""
    <*> .defaulted "password" Json.decodeString ""
    <*> .required "from" Json.decodeString
    <*> .defaulted "display_name" (Json.decodeOption Json.decodeString) none
    <*> .defaulted "to" (Json.decodeOption Json.decodeString) none

/-- Reads the settings. -/
def ofJson : Decoder EmailSettings := shape.decode "struct EmailConfig"

/-- An address without the blanks around it, if anything is left. -/
def address? (s : String) : Option String :=
  let s := Text.trim s
  if s = "" then none else some s

/-- Whom to write to. -/
def recipient? (s : EmailSettings) (hint : String) : Option String :=
  (s.recipient.bind address?).or (address? hint)

/-- How much of a message the subject shows. -/
def subjectLength : Nat := 80

/-- The subject of a message: the title and the beginning of its first line. -/
def subject (message : String) : String :=
  let line := Text.trim (String.ofList (message.toList.takeWhile (· ≠ '\n')))
  let start := String.ofList (line.toList.take subjectLength)
  if start = "" then reminderTitle else reminderTitle ++ ": " ++ start

/-- The letter that carries a message. -/
def letter (s : EmailSettings) (message hint : String) : Except ChannelError Letter := do
  requireText "Email" "smtp_host" s.smtpHost
  match s.recipient? hint with
  | none => .error .noRecipient
  | some recipient =>
    let sender := s.displayName.getD "Renewly" ++ " <" ++ s.sender ++ ">"
    let sender ← (Mailbox.parse sender).mapError (.badAddress "from")
    let recipient ← (Mailbox.parse recipient).mapError (.badAddress "to")
    return ⟨sender, recipient, subject message, message⟩

end EmailSettings

end Reminders
