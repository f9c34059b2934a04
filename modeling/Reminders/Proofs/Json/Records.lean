import Reminders.Billing.Json
import Reminders.Config.Json
import Reminders.Delivery.LogJson
import Reminders.Policy.Json
import Reminders.Proofs.Json.Shape

/-!
The records of the program as JSON.

A record is accepted in more forms than it is written in: as an array, with members that are left
out or null, with others that mean nothing, with tags as objects, with dates and times in any
spelling. It is written in one form, and that is taken for the same record. So a record that has
been read and written once does not change any more.

* `Subscription.settles`, `Policy.settles`, `Channel.settles`, `LogEntry.settles`,
  `BillingDraft.settles`, `Config.settles`
* `decoded_records_settle`
-/

namespace Reminders

open Json

variable {depth : Nat}

/-! ### Tags -/

theorem BillingType.restores : Restores depth decode (.str ·.tag) :=
  restores_of_text fun b => by cases b <;> rfl

theorem RecurrenceType.restores : Restores depth decode (.str ·.tag) :=
  restores_of_text fun r => by cases r <;> rfl

theorem IntervalUnit.restores : Restores depth decode (.str ·.tag) :=
  restores_of_text fun u => by cases u <;> rfl

theorem ChannelType.restores : Restores depth decode (.str ·.tag) :=
  restores_of_text fun t => by cases t <;> rfl

theorem DeliveryStatus.restores : Restores depth decode (.str ·.tag) :=
  restores_of_text fun s => by cases s <;> rfl

/-! ### Records -/

theorem Subscription.settles : Settles depth ofJson toJson := by
  have rewrites : Shape.Rewrites (depth - 1) shape fun s members => s.toJson = .obj members :=
    Shape.Rewrites.pure (by intros; simp only [List.nil_append, List.cons_append]; rfl)
      |>.required settles_int64
      |>.required settles_int64
      |>.required restores_string.settles
      |>.required BillingType.restores.settles
      |>.optional RecurrenceType.restores.settles (fun _ => str_ne_null _)
      |>.optional restores_word32.settles nofun
      |>.optional IntervalUnit.restores.settles (fun _ => str_ne_null _)
      |>.optional restores_word32.settles nofun
      |>.optional restores_word32.settles nofun
      |>.optional restores_word32.settles nofun
      |>.optional restores_date.settles (fun _ => str_ne_null _)
      |>.required restores_float.settles
      |>.required restores_string.settles
      |>.required restores_bool.settles
      |>.optional restores_bool.settles nofun
      |>.optional restores_word32.settles nofun
      |>.optional restores_string.settles nofun
      |>.optional restores_string.settles nofun
      |>.optional restores_string.settles nofun
      |>.optional restores_string.settles nofun
  exact rewrites.settles (by decide)

theorem Policy.settles : Settles depth ofJson toJson := by
  have rewrites : Shape.Rewrites (depth - 1) shape fun p members => p.toJson = .obj members :=
    Shape.Rewrites.pure (fun _ _ _ => rfl)
      |>.required settles_int64
      |>.required restores_word32.settles
      |>.required restores_bool.settles
  exact rewrites.settles (by decide)

/-- The settings of a channel are any value, and are kept as they are. -/
theorem Channel.settles : Settles 1 ofJson toJson := by
  have rewrites : Shape.Rewrites 0 shape fun c members => c.toJson = .obj members :=
    Shape.Rewrites.pure (fun _ _ _ _ _ _ => rfl)
      |>.required settles_int64
      |>.required settles_int64
      |>.required ChannelType.restores.settles
      |>.required restores_bool.settles
      |>.required restores_any.settles
      |>.optional restores_string.settles nofun
  exact rewrites.settles (by decide)

theorem LogEntry.settles : Settles depth ofJson toJson := by
  have rewrites : Shape.Rewrites (depth - 1) shape fun e members => e.toJson = .obj members :=
    Shape.Rewrites.pure (fun _ _ _ _ _ _ _ => rfl)
      |>.required settles_int64
      |>.required settles_int64
      |>.required ChannelType.restores.settles
      |>.required restores_date.settles
      |>.required DeliveryStatus.restores.settles
      |>.optional restores_string.settles nofun
      |>.required restores_instant.settles
  exact rewrites.settles (by decide)

theorem BillingDraft.settles : Settles depth ofJson toJson := by
  have text : Settles (depth - 1) (decodeOption decodeString) ofText? :=
    settles_option restores_string.settles nofun
  have number : Settles (depth - 1) (decodeOption decodeInt64) (ofOption .int) :=
    settles_option settles_int64 nofun
  have time : Settles (depth - 1) (decodeOption decodeInstant) (ofOption (.str ·.toText)) :=
    settles_option restores_instant.settles fun _ => str_ne_null _
  have rewrites : Shape.Rewrites (depth - 1) shape fun d members => d.toJson = .obj members :=
    Shape.Rewrites.pure (fun _ _ _ _ _ _ _ _ => rfl)
      |>.required restores_string.settles
      |>.defaulted text (text .null none rfl)
      |>.defaulted number (number .null none rfl)
      |>.defaulted text (text .null none rfl)
      |>.defaulted number (number .null none rfl)
      |>.defaulted number (number .null none rfl)
      |>.defaulted number (number .null none rfl)
      |>.defaulted time (time .null none rfl)
  exact rewrites.settles (by decide)

theorem SchedulerConfig.settles : Settles depth ofJson toJson := by
  have rewrites : Shape.Rewrites (depth - 1) shape fun s members => s.toJson = .obj members :=
    Shape.Rewrites.pure (fun _ _ _ _ _ => rfl)
      |>.defaulted restores_word64.settles (restores_word64 _)
      |>.defaulted restores_count.settles (restores_count _)
      |>.defaulted restores_count.settles (restores_count _)
      |>.defaulted restores_int32.settles (restores_int32 _)
      |>.defaulted restores_word64.settles (restores_word64 _)
  exact rewrites.settles (by decide)

/-- A section of one text. -/
theorem Config.restores_textSection (name key value : String) :
    Restores depth (textSection name key value) fun text => .obj [(key, .str text)] := by
  intro text w reordered
  obtain ⟨inner, all, rfl, order, same⟩ := reordered.exists_members
  obtain ⟨⟨_, v⟩, _, ⟨rfl, flat⟩, none, rfl⟩ := List.forall₂_cons_left_iff.mp same
  cases none
  exact (Shape.WrittenAs.field (restores_string text v flat)).decode (List.nodup_singleton _) order

theorem Config.settles : Settles depth ofJson toJson := by
  have rewrites : Shape.Rewrites (depth - 1) shape fun c members => c.toJson = .obj members :=
    Shape.Rewrites.pure (fun _ _ _ => rfl)
      |>.defaulted (restores_textSection _ _ _).settles (restores_textSection _ _ _ _)
      |>.defaulted SchedulerConfig.settles (SchedulerConfig.settles (.obj []) _ rfl)
      |>.defaulted (restores_textSection _ _ _).settles (restores_textSection _ _ _ _)
  exact rewrites.settles (by decide)

/-- **Decoding and encoding agree.** Whatever is accepted as a subscription, a policy, a channel, an
entry of the log, a draft or a configuration is accepted again from its JSON, and as the same record,
in whatever order the members of objects stand; in the settings of a channel the order is kept. -/
theorem decoded_records_settle :
    (∀ depth, Settles depth Subscription.ofJson Subscription.toJson) ∧
      (∀ depth, Settles depth Policy.ofJson Policy.toJson) ∧
      Settles 1 Channel.ofJson Channel.toJson ∧
      (∀ depth, Settles depth LogEntry.ofJson LogEntry.toJson) ∧
      (∀ depth, Settles depth BillingDraft.ofJson BillingDraft.toJson) ∧
      ∀ depth, Settles depth Config.ofJson Config.toJson :=
  ⟨fun _ => Subscription.settles, fun _ => Policy.settles, Channel.settles,
    fun _ => LogEntry.settles, fun _ => BillingDraft.settles, fun _ => Config.settles⟩

/-- An entry of the log as an array, at the last leap second of a year on a clock behind UTC. -/
def Sample.attempt : Json :=
  .arr [.int 1, .int 1, .str "ntfy", .str " +12026 - 3 -1", .obj [("failed", .null)], .null,
    .str "9999-12-31t23:59:60.5-01:00"]

/-- The year of an instant in UTC may have five digits when that of its text has four. -/
theorem decoded_records_settle_sample : ∃ e, LogEntry.ofJson Sample.attempt = .ok e ∧
    e.sentAt.toText = "+10000-01-01T00:59:60.500Z" ∧ LogEntry.ofJson e.toJson = .ok e := by
  have time : (LogEntry.ofJson Sample.attempt).toOption.map (·.sentAt.toText) =
      some "+10000-01-01T00:59:60.500Z" := by decide +kernel
  cases decoded : LogEntry.ofJson Sample.attempt with
  | error e =>
    rw [decoded] at time
    cases time
  | ok e =>
    rw [decoded] at time
    exact ⟨e, rfl, Option.some.inj time, (decoded_records_settle.2.2.2.1 1).decode_encode decoded⟩

end Reminders
