import Reminders.Proofs.Schedule.Later
import Reminders.Proofs.Scheduler.Absence
import Reminders.Proofs.Scheduler.Changed
import Reminders.Proofs.Scheduler.Integrity
import Reminders.Proofs.Store.Built

/-!
Bringing a user up to date.

What a rollover does can be said without the queries and the loop that do it: each subscription of
the user that recurs, is over and has a charge to come is moved to that charge, and nothing else
changes. Texts are compared on the way there, and a year of five digits comes before the others
then; but a row that has moved there is on the day or after it, so it is not moved again.

* `Row.Records.upToDate`: what becomes of each row.
* `Row.UpToDate.move?_eq_none`: there is nothing to do for it afterwards, on that day or before.
* `Store.ncard_changed`: as many dates change as there are moves in the plan.
* `Script.advanceUser_brings_up_to_date`
-/

namespace Reminders

open Store

variable {sub : Subscription} {user : Int} {t today : Date}

/-- A rollover of the user on the day moves the subscription to a date: it recurs, it is over, and
the date is its first charge from the day on. -/
structure Subscription.MovesTo (sub : Subscription) (user : Int) (today d : Date) : Prop where
  owner : sub.userId = user
  recurring : sub.IsRecurring
  overdue : ∃ a, sub.nextOccurrence = some a ∧ a < today
  next : sub.nextOnOrAfter? today = some d

/-- The charge that a subscription moves to comes after its date. -/
theorem Subscription.MovesTo.rollover? {d : Date} (moves : sub.MovesTo user today d) :
    sub.rollover? today = some d := by
  obtain ⟨a, stored, late⟩ := moves.overdue
  have later := ((isFirst_nextOnOrAfter? sub today).eq_some_iff.mp moves.next).1.2
  exact rollover?_eq_some_iff.mpr ⟨a, stored, moves.next, Int.lt_of_lt_of_le late later⟩

namespace Row

variable {r r' : Row SubscriptionColumn}

/-- What becomes of a row when the user's subscriptions are brought up to date: it holds the same
subscription at its first charge from the day on, in case it moves, and otherwise it stays. -/
def UpToDate (user : Int) (today : Date) (r r' : Row SubscriptionColumn) : Prop :=
  ∃ sub, Subscription.ofRow r = .ok (.ok sub) ∧
    ((∃ d, sub.MovesTo user today d ∧ r' = r.movedTo d ∧
        Subscription.ofRow r' = .ok (.ok (sub.movedTo d))) ∨
      (∀ d, ¬sub.MovesTo user today d) ∧ r' = r)

/-- A row that the query finds and that has a charge to come is one that moves. -/
theorem Records.movesTo_iff (records : r.Records sub)
    (years : ∀ a, sub.nextOccurrence = some a → 0 ≤ a.year ∧ a.year ≤ 9999)
    (range : 0 ≤ today.year ∧ today.year ≤ 9999) (d : Date) :
    sub.MovesTo user today d ↔ r.IsOverdue user today ∧ sub.rollover? today = some d := by
  rw [records.isOverdue_iff years range]
  constructor
  · intro moves
    exact ⟨⟨moves.owner, moves.recurring, moves.overdue⟩, moves.rollover?⟩
  · rintro ⟨⟨owner, recurring, late⟩, moves⟩
    obtain ⟨-, -, next, -⟩ := Subscription.rollover?_eq_some_iff.mp moves
    exact ⟨owner, recurring, late, next⟩

/-- **What becomes of a row** that records a subscription. -/
theorem Records.upToDate (records : r.Records sub)
    (years : ∀ a, sub.nextOccurrence = some a → 0 ≤ a.year ∧ a.year ≤ 9999)
    (range : 0 ≤ today.year ∧ today.year ≤ 9999) :
    UpToDate user today r (r.broughtUpTo user today) := by
  refine ⟨sub, records.read, ?_⟩
  by_cases moves : ∃ d, sub.MovesTo user today d
  · obtain ⟨d, moves⟩ := moves
    obtain ⟨overdue, rolls⟩ := (records.movesTo_iff years range d).mp moves
    have same : r.broughtUpTo user today = r.movedTo d := by
      rw [broughtUpTo, if_pos overdue, rolledOver_of_some records.read rolls]
    refine .inl ⟨d, moves, same, ?_⟩
    rw [same]
    exact Subscription.ofRow_movedTo records.read d
  · refine .inr ⟨not_exists.mp moves, ?_⟩
    rcases broughtUpTo_eq_or user today r with same |
      ⟨sub', a, d, read, overdue, dated, next, less, -⟩
    · exact same
    · cases records.unique read
      refine absurd ⟨d, ?_⟩ moves
      exact (records.movesTo_iff years range d).mpr
        ⟨overdue, Subscription.rollover?_eq_some_iff.mpr ⟨a, dated, next, less⟩⟩

/-- **A row that is up to date does not move** on that day or before. One that has no charge to come
has none from an earlier day on, unless it is not over by then. -/
theorem UpToDate.move?_eq_none (upToDate : UpToDate user today r r') (records : r.Records sub)
    (years : ∀ a, sub.nextOccurrence = some a → 0 ≤ a.year ∧ a.year ≤ 9999)
    (range : 0 ≤ today.year ∧ today.year ≤ 9999) (upTo : t ≤ today) :
    r'.move? user t = none := by
  obtain ⟨sub', read, ⟨d, moves, rfl, -⟩ | ⟨stays, rfl⟩⟩ := upToDate
  · exact move?_movedTo read moves.rollover? upTo
  · cases records.unique read
    rw [Option.eq_none_iff_forall_ne_some]
    intro m moves
    obtain ⟨overdue, sub', d, read, rolls, -⟩ := move?_eq_some_iff.mp moves
    cases records.unique read
    obtain ⟨owner, recurring, a, stored, late⟩ := records.over_of_isOverdue years overdue
    obtain ⟨-, -, next, -⟩ := Subscription.rollover?_eq_some_iff.mp rolls
    obtain ⟨d', next'⟩ :=
      Subscription.exists_nextOnOrAfter? today stored late next (years a stored).1 range.2
    exact stays d' ⟨owner, recurring, ⟨a, stored, Int.lt_of_lt_of_le late upTo⟩, next'⟩

end Row

namespace Store

variable {s : Store}

/-- The query for overdue subscriptions succeeds. -/
theorem Recorded.exists_findOverdue (recorded : s.Recorded) (user : Int) (today : Date) :
    ∃ subs, s.findOverdue user today = .ok subs :=
  exists_findOverdue_iff.mpr fun r mem _ => recorded.readable r mem

/-- **What becomes of the rows** when each is brought up to date. -/
theorem forall₂_upToDate (built : s.Built) (years : s.FourDigitYears)
    (range : 0 ≤ today.year ∧ today.year ≤ 9999) {after : Store}
    (rows : after.subscriptions.rows = s.subscriptions.rows.map (Row.broughtUpTo user today)) :
    List.Forall₂ (Row.UpToDate user today) s.subscriptions.rows after.subscriptions.rows := by
  rw [rows, List.forall₂_map_right_iff, List.forall₂_same]
  intro r mem
  obtain ⟨sub, records⟩ := built.recorded r mem
  exact records.upToDate (fun a => years r mem sub a records.read) range

/-- **As many dates change as there are moves in the plan.** -/
theorem ncard_changed {after : Store}
    (rows : after.subscriptions.rows = s.subscriptions.rows.map (Row.broughtUpTo user today)) :
    (s.changedDates after).ncard = (s.plan user today).length := by
  rw [changedDates_congr (rows.trans (s.rows_carriedOut_plan user today).symm)]
  exact ncard_changedDates_carriedOut (List.Sublist.refl _)

end Store

namespace Script

variable {s : Store}

/-- **Bringing a user up to date.** On a store that its own statements wrote, in years of four
digits: the subscriptions of the user that recur, are over and have a charge from the day on are
moved to the first such charge; every other row stays, as do all other columns and tables; and the
number that is given back is that of the rows whose date is another one. Doing it again, on that day
or an earlier one, gives zero and writes nothing, since it would do so even when no write is let
through. -/
theorem advanceUser_brings_up_to_date (built : s.Built) (years : s.FourDigitYears)
    (range : 0 ≤ today.year ∧ today.year ≤ 9999) (user : Int) :
    ∃ n after, (advanceUser user today).run .open s = (.ok n, after) ∧
      List.Forall₂ (Row.UpToDate user today) s.subscriptions.rows after.subscriptions.rows ∧
      (after.subscriptions.lastId = s.subscriptions.lastId ∧ after.users = s.users ∧
        after.policies = s.policies ∧ after.channels = s.channels ∧ after.logs = s.logs) ∧
      n = {id | ∃ r ∈ s.subscriptions.rows, ∃ r' ∈ after.subscriptions.rows,
        r.id = id ∧ r'.id = id ∧ r'.cell .nextOccurrence ≠ r.cell .nextOccurrence}.ncard ∧
      ∀ t ≤ today, ∀ desk : Desk, desk (.findOverdue user t) = none →
        (advanceUser user t).run desk after = (.ok 0, after) := by
  obtain ⟨subs, found⟩ := built.recorded.exists_findOverdue user today
  have rows := rows_advanceUser found
  have same := run_advanceUser user today .open s
  have ran := run_advanceUser_open found
  have recorded : ((advanceUser user today).run .open s).2.Recorded :=
    Built.recorded (built.trans (changes_run _ .open s))
  have lastId : ((advanceUser user today).run .open s).2.subscriptions.lastId =
      s.subscriptions.lastId := by
    rw [run_advanceUser_carriedOut found]
    exact s.lastId_carriedOut _
  generalize ((advanceUser user today).run .open s).2 = after at rows same ran recorded lastId
  refine ⟨_, after, ran, forall₂_upToDate built years range rows,
    ⟨lastId, same.users, same.policies, same.channels, same.logs⟩,
    (ncard_changed rows).symm, ?_⟩
  intro t upTo desk passes
  obtain ⟨subs', found'⟩ := recorded.exists_findOverdue user t
  have none : after.plan user t = [] := by
    refine List.filterMap_eq_nil_iff.mpr fun r' mem' => ?_
    rw [rows] at mem'
    obtain ⟨r, mem, rfl⟩ := List.mem_map.mp mem'
    obtain ⟨sub, records⟩ := built.recorded r mem
    have years := fun a => years r mem sub a records.read
    exact (records.upToDate years range).move?_eq_none records years range upTo
  rw [run_advanceUser_eq, serve, passes]
  simp only [answer, found', none]
  rfl

end Script

/-- Some statements, refused or not, leave a store that was written by them. -/
theorem Store.built_foldl (statements : List Statement) :
    Built (statements.foldl (fun s statement => (s.execute none statement).2) .empty) :=
  Scheduler.changes_of_reached (Scheduler.reaches_writes statements .empty)

namespace Sample

/-- A weekly charge that is over. -/
def weekly : Subscription :=
  ⟨0, 1, "Music", .recurring, some .interval, some 1, some .week, none, none, none,
    some (day 2026 2 1), .ofBits 0, "EUR", true, none, none, none, none, none, none⟩

/-- A single charge in March. -/
def course : Subscription :=
  { weekly with name := "Course", billingType := .oneTime, nextOccurrence := some (day 2026 3 5) }

/-- A monthly charge that is over and is not counted. -/
def paused : Subscription :=
  { weekly with name := "Gym", intervalUnit := some .month, nextOccurrence := some (day 2026 1 31),
                currency := "USD", enabled := false }

/-- What is written about a user with these subscriptions. -/
def entries : List Statement :=
  [.createUser "ada@example.org", .insertSubscription weekly, .insertSubscription course,
    .insertSubscription paused]

/-- The store with the subscriptions of the user. -/
def household : Store := entries.foldl (fun s statement => (s.execute none statement).2) .empty

theorem built_household : household.Built := by
  rw [household]
  exact built_foldl entries

theorem fourDigitYears_household : household.FourDigitYears := by
  have held : ∀ r ∈ household.subscriptions.rows, Holds r fun sub =>
      sub.nextOccurrence = some (day 2026 2 1) ∨ sub.nextOccurrence = some (day 2026 3 5) ∨
        sub.nextOccurrence = some (day 2026 1 31) := by decide +kernel
  intro r mem sub a read dated
  obtain ⟨sub', read', dates⟩ := held r mem
  cases Except.ok.inj (Except.ok.inj (read.symm.trans read'))
  rw [dated] at dates
  rcases dates with same | same | same <;> cases same <;> decide

end Sample

namespace Script

/-- Two of three subscriptions are moved, and no more on an earlier day. -/
theorem advanceUser_brings_up_to_date_sample :
    ∃ after, (advanceUser 1 (Sample.day 2026 3 10)).run .open Sample.household = (.ok 2, after) ∧
      List.Forall₂ (Row.UpToDate 1 (Sample.day 2026 3 10)) Sample.household.subscriptions.rows
        after.subscriptions.rows ∧
      after.users = Sample.household.users ∧
      (∃ r ∈ after.subscriptions.rows, (r.cell .nextOccurrence).IsText "2026-03-15") ∧
      (∃ r ∈ after.subscriptions.rows, (r.cell .nextOccurrence).IsText "2026-03-31") ∧
      (advanceUser 1 (Sample.day 2026 3 4)).run .open after = (.ok 0, after) := by
  obtain ⟨n, after, ran, rows, ⟨-, users, -⟩, -, again⟩ :=
    advanceUser_brings_up_to_date Sample.built_household Sample.fourDigitYears_household
      (by decide : 0 ≤ (Sample.day 2026 3 10).year ∧ (Sample.day 2026 3 10).year ≤ 9999) 1
  have two : ((advanceUser 1 (Sample.day 2026 3 10)).run .open Sample.household).1.toOption =
      some 2 := by decide +kernel
  have dates : (∃ r ∈ ((advanceUser 1 (Sample.day 2026 3 10)).run .open
      Sample.household).2.subscriptions.rows, (r.cell .nextOccurrence).IsText "2026-03-15") ∧
      ∃ r ∈ ((advanceUser 1 (Sample.day 2026 3 10)).run .open
      Sample.household).2.subscriptions.rows,
        (r.cell .nextOccurrence).IsText "2026-03-31" := by decide +kernel
  rw [ran] at two dates
  cases Option.some.inj two
  exact ⟨after, ran, rows, users, dates.1, dates.2, again _ (by decide) .open rfl⟩

end Script

end Reminders
