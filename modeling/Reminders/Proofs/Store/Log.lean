import Reminders.Proofs.Calendar.DateText
import Reminders.Store.Basic

/-!
The delivery log.

The log only grows: an entry that is let in stands at its end, and the other tables stay as they are.

* `Store.insertLog_eq_ok_iff`: which entries are let in.
* `Store.wasSent_logged`, `Store.sentCount_logged`: what an entry adds to what the log says.
-/

namespace Reminders

namespace Cell

theorem isInt_iff {c : Cell} {n : Int} : c.IsInt n ↔ c = .integer n := by
  cases c with
  | integer m => simp [IsInt]
  | null | real | text => simp [IsInt]

theorem isText_iff {c : Cell} {s : String} : c.IsText s ↔ c = .text s := by
  cases c with
  | text t => simp [IsText]
  | null | integer | real => simp [IsText]

end Cell

theorem DeliveryStatus.tag_inj {a b : DeliveryStatus} (h : a.tag = b.tag) : a = b := by
  rw [← ofTag_tag a, h, ofTag_tag]

namespace Store

/-- The store with one more entry at the end of its log. -/
def logged (s : Store) (e : LogEntry) : Store := { s with logs := s.logs.insert e.toCells }

@[simp] theorem logged_users (s : Store) (e : LogEntry) : (s.logged e).users = s.users := rfl

@[simp] theorem logged_subscriptions (s : Store) (e : LogEntry) :
    (s.logged e).subscriptions = s.subscriptions := rfl

@[simp] theorem logged_policies (s : Store) (e : LogEntry) :
    (s.logged e).policies = s.policies := rfl

@[simp] theorem logged_channels (s : Store) (e : LogEntry) :
    (s.logged e).channels = s.channels := rfl

@[simp] theorem logged_rows (s : Store) (e : LogEntry) :
    (s.logged e).logs.rows = s.logs.rows ++ [⟨s.logs.nextId, e.toCells⟩] := rfl

/-- An entry is let in unless it would be the second one of a reminder that was sent. -/
theorem insertLog_eq_ok_iff {s s' : Store} {e : LogEntry} :
    s.insertLog e = .ok s' ↔ ¬(e.status = .sent ∧ s.WasSent e.key) ∧ s' = s.logged e := by
  unfold insertLog
  by_cases second : e.status = .sent ∧ s.WasSent e.key
  · rw [if_pos second]
    exact ⟨nofun, fun h => absurd second h.1⟩
  · rw [if_neg second]
    exact ⟨fun h => ⟨second, (Except.ok.inj h).symm⟩, fun h => congrArg _ h.2.symm⟩

/-- The number of rows that say that a reminder was sent. -/
def sentCount (s : Store) (key : ReminderKey) : Nat :=
  s.logs.rows.countP fun r =>
    decide (SentRow r key.subscriptionId key.channelType.tag key.notifyDate.toText)

theorem wasSent_iff_sentCount_pos {s : Store} {key : ReminderKey} :
    s.WasSent key ↔ 0 < s.sentCount key := by
  simp only [WasSent, sentCount, List.countP_pos_iff, decide_eq_true_eq]

/-- The row of an entry says that a reminder was sent when the entry does. -/
theorem sentRow_toCells {id : Int} {e : LogEntry} {key : ReminderKey} :
    SentRow ⟨id, e.toCells⟩ key.subscriptionId key.channelType.tag key.notifyDate.toText ↔
      e.status = .sent ∧ e.key = key := by
  simp only [SentRow, LogEntry.toCells, Cell.isInt_iff, Cell.isText_iff, Cell.integer.injEq,
    Cell.text.injEq]
  constructor
  · rintro ⟨subscription, type, date, status⟩
    refine ⟨DeliveryStatus.tag_inj status, ?_⟩
    obtain ⟨id, type', date'⟩ := key
    rw [LogEntry.key, subscription, ChannelType.tag_inj type, Date.toText_inj date]
  · rintro ⟨status, rfl⟩
    exact ⟨rfl, rfl, rfl, by rw [status]⟩

theorem sentCount_logged (s : Store) (e : LogEntry) (key : ReminderKey) :
    (s.logged e).sentCount key =
      s.sentCount key + if e.status = .sent ∧ e.key = key then 1 else 0 := by
  simp only [sentCount, logged_rows, List.countP_append, List.countP_singleton, sentRow_toCells,
    decide_eq_true_eq]

theorem wasSent_logged {s : Store} {e : LogEntry} {key : ReminderKey} :
    (s.logged e).WasSent key ↔ s.WasSent key ∨ (e.status = .sent ∧ e.key = key) := by
  rw [wasSent_iff_sentCount_pos, wasSent_iff_sentCount_pos, sentCount_logged]
  split <;> simp [*]

end Store

end Reminders
