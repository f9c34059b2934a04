import Reminders.Proofs.Scheduler.Downtime
import Reminders.Proofs.Store.Integrity

/-!
Subscriptions that the store wrote.

Rows that only the store's own statements have written hold more than rows that can be read: each
holds a subscription, and its date stands there as it is written. So the query for overdue
subscriptions, which compares texts, compares dates, as long as their years have four digits.

* `Row.Records`: the row holds a subscription as the store writes it.
* `Store.Built.recorded`: so does every row, whatever statements were carried out.
* `Row.Records.isOverdue_iff`: which rows the query for overdue subscriptions finds.
-/

namespace Reminders

open Store

variable {sub : Subscription} {d today : Date} {user : Int}

/-! ### Rows -/

/-- The row holds the subscription, with its date as it is written. -/
structure Row.Records (r : Row SubscriptionColumn) (sub : Subscription) : Prop where
  read : Subscription.ofRow r = .ok (.ok sub)
  date : r.cell .nextOccurrence = Cell.ofOption (.text ·.toText) sub.nextOccurrence

namespace Row.Records

variable {r : Row SubscriptionColumn}

theorem movedTo (records : r.Records sub) (d : Date) : (r.movedTo d).Records (sub.movedTo d) where
  read := Subscription.ofRow_movedTo records.read d
  date := rfl

/-- A row holds one subscription. -/
theorem unique {sub' : Subscription} (records : r.Records sub)
    (read : Subscription.ofRow r = .ok (.ok sub')) : sub' = sub :=
  Except.ok.inj (Except.ok.inj (read.symm.trans records.read))

theorem isInt_userId_iff (records : r.Records sub) :
    (r.cell .userId).IsInt user ↔ sub.userId = user := by
  obtain ⟨-, owner, -⟩ := Subscription.ofRow_eq_ok_ok records.read
  rw [owner]
  exact Iff.rfl

theorem storedRecurring_iff (records : r.Records sub) : StoredRecurring r ↔ sub.IsRecurring := by
  obtain ⟨-, -, ⟨tag, stored, known⟩, -⟩ := Subscription.ofRow_eq_ok_ok records.read
  rw [StoredRecurring, Cell.isText_iff, stored, Cell.text.injEq,
    ← BillingType.ofTag?_eq_recurring_iff, known]
  exact Option.some_inj

/-- A date of a four-digit year whose text comes before that of a day comes before the day. -/
theorem exists_lt_of_storedBefore (records : r.Records sub)
    (years : ∀ a, sub.nextOccurrence = some a → 0 ≤ a.year ∧ a.year ≤ 9999)
    (before : StoredBefore r today.toText) : ∃ a, sub.nextOccurrence = some a ∧ a < today := by
  rw [StoredBefore, records.date] at before
  cases dated : sub.nextOccurrence with
  | none =>
    rw [dated] at before
    exact before.elim
  | some a =>
    rw [dated] at before
    exact ⟨a, rfl, Date.lt_of_toText_lt before (years a dated)⟩

theorem over_of_isOverdue (records : r.Records sub)
    (years : ∀ a, sub.nextOccurrence = some a → 0 ≤ a.year ∧ a.year ≤ 9999)
    (overdue : r.IsOverdue user today) :
    sub.userId = user ∧ sub.IsRecurring ∧ ∃ a, sub.nextOccurrence = some a ∧ a < today := by
  obtain ⟨owner, recurring, before⟩ := overdue
  exact ⟨records.isInt_userId_iff.mp owner, records.storedRecurring_iff.mp recurring,
    records.exists_lt_of_storedBefore years before⟩

/-- **Which rows the query for overdue subscriptions finds**: those of the user's recurring
subscriptions whose date comes before the day. -/
theorem isOverdue_iff (records : r.Records sub)
    (years : ∀ a, sub.nextOccurrence = some a → 0 ≤ a.year ∧ a.year ≤ 9999)
    (range : 0 ≤ today.year ∧ today.year ≤ 9999) : r.IsOverdue user today ↔
      sub.userId = user ∧ sub.IsRecurring ∧ ∃ a, sub.nextOccurrence = some a ∧ a < today := by
  refine ⟨records.over_of_isOverdue years, ?_⟩
  rintro ⟨owner, recurring, a, dated, less⟩
  refine ⟨records.isInt_userId_iff.mpr owner, records.storedRecurring_iff.mpr recurring, ?_⟩
  rw [StoredBefore, records.date, dated]
  exact Date.toText_lt_of_lt less range

end Row.Records

/-- What is stored for a subscription whose amount is a number records it, with an amount that equals
the one given. -/
theorem Subscription.exists_records_stored (sub : Subscription) (id : Int)
    (number : sub.amount.isNaN = false) : ∃ amount, (amount == sub.amount) = true ∧
      Row.Records ⟨id, Table.stored sub.toCells⟩ { sub with id, amount } := by
  obtain ⟨amount, stored, equals⟩ := Cell.store_real_eq number
  have cell : Table.stored sub.toCells .amount = .real amount := by
    rw [Table.stored, Subscription.toCells, number]
    exact stored
  refine ⟨amount, equals, sub.ofRow_stored id cell, ?_⟩
  change Cell.store .text (Cell.ofOption (.text ·.toText) sub.nextOccurrence) = _
  cases sub.nextOccurrence <;> rfl

/-! ### Stores -/

namespace Store

variable {s s' : Store}

/-- The store was built up from nothing by its own statements. -/
def Built (s : Store) : Prop := empty.Changes s

/-- Every row of a subscription records one. -/
def Recorded (s : Store) : Prop := ∀ r ∈ s.subscriptions.rows, ∃ sub, r.Records sub

/-- **Every statement** leaves rows that record a subscription. -/
theorem Recorded.run {statement : Statement} {reply : Option Int} (recorded : s.Recorded)
    (ran : statement.run s = .ok (reply, s')) : s'.Recorded := by
  cases Statement.effect_of_run ran with
  | deleteUser user => exact fun r mem => recorded r (List.mem_filter.mp mem).1
  | updateNextOccurrence id d =>
    exact Table.forall_modify recorded fun r ⟨sub, records⟩ => ⟨sub.movedTo d, records.movedTo d⟩
  | insertSubscription known =>
    rename_i sub
    obtain ⟨⟨id, after⟩, inserted, -⟩ := except_map_eq_ok_iff.mp ran
    obtain ⟨⟨checked, -⟩, -⟩ := insertSubscription_eq_ok_iff.mp inserted
    have number := sub.checkRequired_stored_eq_ok_iff.mp checked
    obtain ⟨amount, -, records⟩ := sub.exists_records_stored s.subscriptions.nextId number
    exact Table.forall_insert recorded ⟨_, records⟩
  | createUser | insertChannel | setChannelEnabled | changePolicy | addPolicy | insertLog =>
    exact recorded

theorem Built.recorded (built : s.Built) : s.Recorded := by
  induction built with
  | refl => exact fun _ mem => absurd mem List.not_mem_nil
  | tail _ ran ih =>
    obtain ⟨statement, reply, ran⟩ := ran
    exact ih.run ran

/-- Rows that record a subscription can be read. -/
theorem Recorded.readable (recorded : s.Recorded) :
    ∀ r ∈ s.subscriptions.rows, ∃ x, Subscription.ofRow r = .ok x := by
  intro r mem
  obtain ⟨sub, records⟩ := recorded r mem
  exact ⟨_, records.read⟩

/-- Every date that is stored for a subscription has a year of four digits. -/
def FourDigitYears (s : Store) : Prop :=
  ∀ r ∈ s.subscriptions.rows, ∀ sub a, Subscription.ofRow r = .ok (.ok sub) →
    sub.nextOccurrence = some a → 0 ≤ a.year ∧ a.year ≤ 9999

end Store

end Reminders
