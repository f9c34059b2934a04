import Reminders.Proofs.Store.Built

/-!
Dates in the store.

The store keeps a date as its text, and compares texts where it would compare dates. That loses
nothing: a text is read back as the date it was written for, so no two dates have the same text and
no two reminders the same entry in the log; and texts of years from 0 to 9999 are in the order of
their dates. So what the query for overdue subscriptions finds can be said without texts, as a
selection from the subscriptions that the store was given.

* `Store.Given`: what subscriptions the store was given.
* `Store.Built.exists_given`: every store that its own statements wrote was given some.
* `Store.Given.held`: the rows hold them, in their order.
* `Store.Given.findOverdue`: what the query for overdue subscriptions finds.
* `Store.stored_dates_are_faithful`
-/

namespace Reminders

open Store

variable {sub kept : Subscription} {d before : Date} {user : Int}

/-- A stored date is read as it was written. -/
theorem readDate_toText (d : Date) : readDate d.toText = .ok d := by
  rw [readDate, Date.parse_toText]
  rfl

/-! ### Subscriptions and their rows -/

namespace Subscription

variable {r : Row SubscriptionColumn}

/-- What is kept of a subscription that was given: all of it, but for an amount that equals the one
given. -/
def IsKept (given kept : Subscription) : Prop :=
  ∃ amount, (amount == given.amount) = true ∧ kept = { given with amount }

/-- The subscription is a recurring one of the user, and its date comes before the day. -/
def IsLate (sub : Subscription) (user : Int) (day : Date) : Prop :=
  sub.userId = user ∧ sub.IsRecurring ∧ ∃ a, sub.nextOccurrence = some a ∧ a < day

instance (sub : Subscription) (user : Int) (day : Date) : Decidable (sub.IsLate user day) :=
  inferInstanceAs (Decidable (_ ∧ _ ∧ ∃ a ∈ sub.nextOccurrence, a < day))

/-- The row holds the subscription that was given. -/
def HeldIn (sub : Subscription) (r : Row SubscriptionColumn) : Prop :=
  ∃ kept, sub.IsKept kept ∧ r.Records kept

namespace HeldIn

theorem movedTo (held : sub.HeldIn r) (d : Date) : (sub.movedTo d).HeldIn (r.movedTo d) := by
  obtain ⟨_, ⟨amount, equals, rfl⟩, records⟩ := held
  exact ⟨_, ⟨amount, equals, rfl⟩, records.movedTo d⟩

theorem id_eq (held : sub.HeldIn r) : sub.id = r.id := by
  obtain ⟨_, ⟨amount, -, rfl⟩, records⟩ := held
  exact (ofRow_eq_ok_ok records.read).1

theorem isInt_userId_iff (held : sub.HeldIn r) :
    (r.cell .userId).IsInt user ↔ sub.userId = user := by
  obtain ⟨_, ⟨amount, -, rfl⟩, records⟩ := held
  exact records.isInt_userId_iff

/-- The query for overdue subscriptions finds the rows of those that are late, if the dates among
which it looks are of the years 0 to 9999. -/
theorem isOverdue_iff (held : sub.HeldIn r) (range : 0 ≤ before.year ∧ before.year ≤ 9999)
    (years : sub.userId = user → sub.IsRecurring →
      ∀ a, sub.nextOccurrence = some a → 0 ≤ a.year ∧ a.year ≤ 9999) :
    r.IsOverdue user before ↔ sub.IsLate user before := by
  obtain ⟨_, ⟨amount, -, rfl⟩, records⟩ := held
  by_cases searched : sub.userId = user ∧ sub.IsRecurring
  · exact records.isOverdue_iff (years searched.1 searched.2) range
  · refine iff_of_false (fun overdue => searched ?_) fun late => searched ⟨late.1, late.2.1⟩
    exact ⟨records.isInt_userId_iff.mp overdue.1, records.storedRecurring_iff.mp overdue.2.1⟩

end HeldIn

end Subscription

/-! ### What a store was given -/

/-- What a statement makes of the subscriptions that there are, once it was answered. -/
def Statement.account (subs : List Subscription) :
    Statement → Except StoreError (Option Int) → List Subscription
  | .insertSubscription sub, .ok (some id) => subs ++ [{ sub with id }]
  | .updateNextOccurrence id d, .ok _ =>
    subs.map fun sub => if sub.id = id then sub.movedTo d else sub
  | .deleteUser user, .ok _ => subs.filter fun sub => sub.userId ≠ user
  | _, _ => subs

namespace Store

variable {s s' : Store} {subs : List Subscription}

/-- The store came about by statements, refused or not, and it may have been closed and opened again;
the subscriptions are those that it was given. -/
inductive Given : Store → List Subscription → Prop where
  | empty : Given .empty []
  | write {s : Store} {subs : List Subscription} (given : Given s subs) (refusal : Option String)
      (statement : Statement) : Given (s.execute refusal statement).2
        (statement.account subs (s.execute refusal statement).1)
  | reopen {s : Store} {subs : List Subscription} (given : Given s subs) : Given s.reopened subs

/-- **Every statement** keeps the rows in step with the account. -/
theorem held_of_run {statement : Statement} {reply : Option Int}
    (held : List.Forall₂ Subscription.HeldIn subs s.subscriptions.rows)
    (ran : statement.run s = .ok (reply, s')) :
    List.Forall₂ Subscription.HeldIn (statement.account subs (.ok reply))
      s'.subscriptions.rows := by
  cases Statement.effect_of_run ran with
  | deleteUser user =>
    refine List.rel_filter (fun sub r held => ?_) held
    simp [held.isInt_userId_iff]
  | updateNextOccurrence id d =>
    rw [Statement.account, List.forall₂_map_left_iff]
    refine List.forall₂_map_right_iff.mpr (held.imp fun sub r held => ?_)
    rw [held.id_eq]
    split
    · exact held.movedTo d
    · exact held
  | insertSubscription known =>
    rename_i sub
    obtain ⟨⟨id, after⟩, inserted, -⟩ := except_map_eq_ok_iff.mp ran
    obtain ⟨⟨checked, -⟩, -⟩ := insertSubscription_eq_ok_iff.mp inserted
    have number := sub.checkRequired_stored_eq_ok_iff.mp checked
    obtain ⟨amount, equals, records⟩ := sub.exists_records_stored s.subscriptions.nextId number
    exact List.rel_append held (.cons ⟨_, ⟨amount, equals, rfl⟩, records⟩ .nil)
  | createUser | insertChannel | setChannelEnabled | changePolicy | addPolicy | insertLog =>
    exact held

/-- **The rows hold what the store was given**, in this order. -/
theorem Given.held (given : s.Given subs) :
    List.Forall₂ Subscription.HeldIn subs s.subscriptions.rows := by
  induction given with
  | empty => exact .nil
  | reopen _ ih => rwa [reopened_eq]
  | write _ refusal statement ih =>
    rename_i s subs _
    cases refusal with
    | some reason => cases statement <;> exact ih
    | none =>
      unfold execute
      cases ran : statement.run s with
      | ok result => exact held_of_run ih ran
      | error e => cases statement <;> exact ih

/-- Every store that its own statements wrote was given some subscriptions. -/
theorem Built.exists_given (built : s.Built) : ∃ subs, s.Given subs := by
  induction built with
  | refl => exact ⟨[], .empty⟩
  | tail _ changed ih =>
    obtain ⟨subs, given⟩ := ih
    obtain ⟨statement, reply, ran⟩ := changed
    have written := given.write none statement
    simp only [execute, ran] at written
    exact ⟨_, written⟩

/-! ### Queries -/

/-- Rows that hold subscriptions are read as them. -/
theorem exists_readSubscriptions_of_held {rows : List (Row SubscriptionColumn)}
    (held : List.Forall₂ Subscription.HeldIn subs rows) :
    ∃ found, readSubscriptions rows = .ok found ∧
      List.Forall₂ Subscription.IsKept subs found := by
  have readings : ∃ found, rows.mapM Subscription.ofRow = .ok (found.map .ok) ∧
      List.Forall₂ Subscription.IsKept subs found := by
    induction held with
    | nil => exact ⟨[], rfl, .nil⟩
    | cons first _ ih =>
      obtain ⟨kept, same, records⟩ := first
      obtain ⟨found, read, later⟩ := ih
      refine ⟨kept :: found, ?_, .cons same later⟩
      rw [List.mapM_cons, records.read, read]
      rfl
  obtain ⟨found, read, same⟩ := readings
  refine ⟨found, except_bind_eq_ok_iff.mpr ⟨_, doing_eq_ok_iff.mpr read, ?_⟩, same⟩
  rw [List.filterMap_map]
  exact congrArg _ (List.filterMap_some)

/-- **What the query for overdue subscriptions finds**: those that are late among the ones the store
was given, in the order of their ids. -/
theorem Given.findOverdue (given : s.Given subs) (range : 0 ≤ before.year ∧ before.year ≤ 9999)
    (years : ∀ sub ∈ subs, sub.userId = user → sub.IsRecurring →
      ∀ a, sub.nextOccurrence = some a → 0 ≤ a.year ∧ a.year ≤ 9999) :
    ∃ found, s.findOverdue user before = .ok found ∧
      List.Forall₂ Subscription.IsKept (subs.filter (·.IsLate user before)) found ∧
      found.Pairwise (·.id < ·.id) := by
  have dated := (List.forall₂_and_left _ _).mpr ⟨years, given.held⟩
  have late : List.Forall₂ Subscription.HeldIn (subs.filter (·.IsLate user before))
      (s.subscriptions.rows.filter (·.IsOverdue user before)) := by
    refine (List.rel_filter (fun sub r both => ?_) dated).imp fun _ _ both => both.2
    simp [both.2.isOverdue_iff range both.1]
  obtain ⟨found, read, same⟩ := exists_readSubscriptions_of_held late
  refine ⟨found, ?_, same, ?_⟩
  · rw [findOverdue_eq, read]
  · exact readSubscriptions_ascending read (s.subscriptions.ascending.filter _)

/-! ### Dates -/

/-- **Stored dates are faithful.** The text of a date is read back as the date, so no two dates have
the same text, and an entry in the log stands for the reminders with its key and no others. Texts of
dates in the years 0 to 9999 are in the order of the dates. So the query for overdue subscriptions,
asked about dates in these years, finds the recurring subscriptions of the user that the store was
given and that have a date before the day, in the order of their ids, as they were given. -/
theorem stored_dates_are_faithful :
    (∀ d : Date, readDate d.toText = .ok d) ∧
    (∀ d e : Date, d.toText = e.toText → d = e) ∧
    (∀ (s s' : Store) (entry : LogEntry), s.insertLog entry = .ok s' → ∀ key,
      s'.WasSent key ↔ s.WasSent key ∨ (entry.status = .sent ∧ entry.key = key)) ∧
    (∀ d e : Date, 0 ≤ d.year ∧ d.year ≤ 9999 → 0 ≤ e.year ∧ e.year ≤ 9999 →
      (d.toText < e.toText ↔ d < e)) ∧
    ∀ (s : Store) (subs : List Subscription), s.Given subs →
      ∀ (user : Int) (before : Date), 0 ≤ before.year ∧ before.year ≤ 9999 →
        (∀ sub ∈ subs, sub.userId = user → sub.IsRecurring →
          ∀ a, sub.nextOccurrence = some a → 0 ≤ a.year ∧ a.year ≤ 9999) →
        ∃ found, s.findOverdue user before = .ok found ∧
          List.Forall₂ Subscription.IsKept (subs.filter (·.IsLate user before)) found ∧
          found.Pairwise (·.id < ·.id) := by
  refine ⟨readDate_toText, fun _ _ => Date.toText_inj, ?_, fun _ _ => Date.toText_lt_iff, ?_⟩
  · intro s s' entry inserted key
    obtain ⟨-, rfl⟩ := insertLog_eq_ok_iff.mp inserted
    exact wasSent_logged
  · intro s subs given user before range years
    exact given.findOverdue range years

end Store

/-- A charge of the first user. -/
def Sample.dueOn (name : String) (type : BillingType) (date : Date) : Subscription :=
  { Sample.subscription with name, billingType := type, nextOccurrence := some date }

/-- Of four subscriptions, one is not recurring, one is due on the day, and one has moved to an
earlier date than it was given with. -/
theorem Store.stored_dates_are_faithful_sample :
    ∃ (s : Store) (subs found : List Subscription), s.Given subs ∧
      s.findOverdue 1 Sample.today = .ok found ∧
      List.Forall₂ Subscription.IsKept (subs.filter (·.IsLate 1 Sample.today)) found ∧
      found.map (·.nextOccurrence) = [some (Sample.day 2026 2 1), some (Sample.day 999 12 31)] := by
  obtain ⟨s, subs, given, years, dates⟩ : ∃ (s : Store) (subs : List Subscription), s.Given subs ∧
      (∀ sub ∈ subs, ∃ a ∈ sub.nextOccurrence, 0 ≤ a.year ∧ a.year ≤ 9999) ∧
      (s.findOverdue 1 Sample.today).toOption.map (·.map (·.nextOccurrence)) =
        some [some (Sample.day 2026 2 1), some (Sample.day 999 12 31)] := by
    have given := Given.empty
      |>.write none (.createUser "ada@example.org")
      |>.write none (.insertSubscription (Sample.dueOn "Music" .recurring (Sample.day 2026 2 1)))
      |>.write none (.insertSubscription (Sample.dueOn "Course" .oneTime (Sample.day 2026 2 1)))
      |>.write none (.insertSubscription (Sample.dueOn "Rent" .recurring Sample.today))
      |>.write none (.insertSubscription (Sample.dueOn "Gym" .recurring (Sample.day 2026 3 2)))
      |>.write none (.updateNextOccurrence 4 (Sample.day 999 12 31))
    refine ⟨_, _, given, ?_, ?_⟩
    · decide +kernel
    · decide +kernel
  obtain ⟨found, read, same, -⟩ := stored_dates_are_faithful.2.2.2.2 s subs given 1 Sample.today
    (by decide) fun sub mem _ _ a dated => by
      obtain ⟨a', dated', range⟩ := years sub mem
      cases dated.symm.trans dated'
      exact range
  rw [read] at dates
  exact ⟨s, subs, found, given, read, same, Option.some.inj dates⟩

end Reminders
