import Reminders.Billing.Draft
import Reminders.Billing.Json
import Reminders.Calendar.Date
import Reminders.Calendar.DateText
import Reminders.Calendar.Instant
import Reminders.Calendar.InstantText
import Reminders.Calendar.Months
import Reminders.Channel.Basic
import Reminders.Channel.Chat
import Reminders.Channel.Email
import Reminders.Channel.Json
import Reminders.Channel.Push
import Reminders.Channel.Service
import Reminders.Channel.Telegram
import Reminders.Channel.Webhook
import Reminders.CommandLine.Arguments
import Reminders.CommandLine.Perform
import Reminders.Config.Basic
import Reminders.Config.File
import Reminders.Config.Json
import Reminders.Config.Toml
import Reminders.Decimal.Binary
import Reminders.Decimal.Layout
import Reminders.Decimal.Shortest
import Reminders.Delivery.ChannelError
import Reminders.Delivery.LogEntry
import Reminders.Delivery.LogJson
import Reminders.Delivery.Pool
import Reminders.Delivery.Send
import Reminders.Digest.Sha256
import Reminders.Failure
import Reminders.Files.Basic
import Reminders.Files.Disk
import Reminders.Json.Decode
import Reminders.Json.Outline
import Reminders.Json.Parser
import Reminders.Json.Printer
import Reminders.Json.Value
import Reminders.Mail.Mailbox
import Reminders.Policy.Basic
import Reminders.Policy.Json
import Reminders.Policy.Update
import Reminders.Reminder.Fields
import Reminders.Reminder.Template
import Reminders.Schedule.Count
import Reminders.Schedule.Next
import Reminders.Schedule.Recurrence
import Reminders.Scheduler.Engine
import Reminders.Scheduler.Rollover
import Reminders.Scheduler.Summary
import Reminders.Scheduler.Tick
import Reminders.Scheduler.UserRun
import Reminders.Script
import Reminders.Store.Basic
import Reminders.Store.Cell
import Reminders.Store.Columns
import Reminders.Store.File
import Reminders.Store.Overwrite
import Reminders.Store.Rows
import Reminders.Store.Statement
import Reminders.Store.Table
import Reminders.Store.Text
import Reminders.Subscription.Basic
import Reminders.Subscription.Json
import Reminders.Text.Base64
import Reminders.Text.Blank
import Reminders.Text.Hidden
import Reminders.Text.Numeral
import Reminders.Text.Quoted
import Reminders.Text.Utf8
import Reminders.Text.Width
import Reminders.Toml.Parser
import Reminders.Toml.Quoted
import Reminders.Toml.Scalar
import Reminders.Toml.Value
import Reminders.Web.Form
import Reminders.Web.Host
import Reminders.Web.Percent
import Reminders.Web.Request
import Reminders.Web.Status
import Reminders.Web.Url
import Reminders.Main
import Reminders.Delivery.Crew
import Reminders.Proofs.Lists
import Reminders.Proofs.Calendar.Reach
import Reminders.Scheduler.Round
import Reminders.Proofs.Schedule.First
import Reminders.Proofs.Calendar.DateText
import Reminders.Proofs.Delivery.Crew
import Reminders.Proofs.Delivery.AtHand
import Reminders.Proofs.Scheduler.Conservation
import Reminders.Proofs.Scheduler.Reminders
import Reminders.Proofs.Decimal.Bits
import Reminders.Proofs.Delivery.Ledger
import Reminders.Proofs.Json.Literals
import Reminders.Proofs.Json.RoundTrip
import Reminders.Proofs.Scheduler.AtMostOnce
import Reminders.Scheduler.System
import Reminders.Scheduler.Work
import Reminders.Proofs.Calendar.WrittenDate
import Reminders.Proofs.Schedule.Reanchor
import Reminders.Proofs.Scheduler.Rollover
import Reminders.Proofs.Store.Movement
import Reminders.Proofs.Store.Scope
import Reminders.Proofs.Script.Confined
import Reminders.Proofs.Scheduler.Tasks
import Reminders.Proofs.Scheduler.Forward
import Reminders.Proofs.Scheduler.Downtime
import Reminders.Proofs.Delivery.Share
import Reminders.Proofs.Scheduler.Growth
import Reminders.Proofs.Scheduler.Beside
import Reminders.Proofs.Scheduler.Course
import Reminders.Proofs.Scheduler.Listed
import Reminders.Proofs.Scheduler.Independence
import Reminders.Proofs.Scheduler.Dashboard
import Reminders.Proofs.Scheduler.Window
import Reminders.Proofs.Scheduler.Calm
import Reminders.Proofs.Scheduler.Changed
import Reminders.Proofs.Scheduler.Siblings
import Reminders.Scheduler.Use
import Reminders.Proofs.Billing.Accepted
import Reminders.Proofs.Channel.Outcome
import Reminders.Proofs.Decimal.Whole
import Reminders.Proofs.Store.Writes
import Reminders.Proofs.Store.Reopen
import Reminders.Proofs.Store.Faithful
import Reminders.Proofs.Store.Integrity
import Reminders.Proofs.Scheduler.Integrity
import Reminders.Proofs.Schedule.Counting
import Reminders.Proofs.Schedule.Months
import Reminders.Proofs.Text.Utf8
import Reminders.Proofs.Json.Faithful
import Reminders.Proofs.Web.Form
import Reminders.Proofs.Channel.Message
import Reminders.Proofs.Toml.Strings
import Reminders.Proofs.Toml.Values
import Reminders.Proofs.Toml.Document
import Reminders.Proofs.Config.Text
import Reminders.Proofs.Files.Disk
import Reminders.Proofs.Config.Saved
import Reminders.Proofs.Store.Built
import Reminders.Proofs.Schedule.Later
import Reminders.Proofs.Scheduler.UpToDate
import Reminders.Proofs.Schedule.RestOfMonth
import Reminders.Proofs.Scheduler.Totals
import Reminders.Proofs.Scheduler.Failure
import Reminders.Proofs.Delivery.Docket
import Reminders.Proofs.Billing.Acceptance
import Reminders.Proofs.Reminder.Reading
import Reminders.Proofs.Reminder.Rendering
import Reminders.Proofs.Reminder.Groups
import Reminders.Proofs.Policy.History
import Reminders.Proofs.Scheduler.Resumption
import Reminders.Proofs.Scheduler.Advances
import Reminders.Proofs.Channel.Codes
import Reminders.Proofs.Config.Offset
import Reminders.Schedule.Words
import Reminders.Proofs.Schedule.Words
import Reminders.Proofs.Store.Overdue
import Reminders.Proofs.Calendar.WrittenInstant
import Reminders.Proofs.Json.Shape
import Reminders.Proofs.Json.Records
