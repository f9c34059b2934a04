import Reminders.Billing.Draft
import Reminders.Proofs.Schedule.First
import Reminders.Proofs.Store.Query

/-!
Accepted drafts.

A draft is checked as it was entered, in integers and words; whether a subscription charges again is
decided later, from the columns that it was stored with. Both come to the same: a subscription that
was given accepted billing has a schedule whenever it recurs, and nothing of its billing before is
left.

* `BillingDraft.within_eq_some_iff`: what is in range as entered is in range as stored.
* `Billing.hasValidSchedule_applyTo_iff`: a rule is a schedule when its numbers are in range.
* `BillingDraft.accepted_draft_is_usable`
-/

namespace Reminders

/-! ### What a draft is accepted for -/

/-- The numbers of a rule are those that a schedule can have. -/
def BillingRule.InRange : BillingRule → Prop
  | .interval count _ => 1 ≤ count.toNat
  | .monthlyDate day => 1 ≤ day.toNat ∧ day.toNat ≤ 31
  | .yearlyDate month day =>
    (1 ≤ month.toNat ∧ month.toNat ≤ 12) ∧ 1 ≤ day.toNat ∧ day.toNat ≤ 31

namespace BillingDraft

variable {d : BillingDraft}

theorem orElse_eq_ok_iff {problem : BillingProblem} {o : Option α} {a : α} :
    orElse problem o = .ok a ↔ o = some a := by
  cases o <;> simp [orElse]

/-- A number that is accepted is stored as it was entered: 32 bits have room for every bound. -/
theorem within_eq_some_iff {high : Nat} (fits : high ≤ Width.maxWord32) {value : Option Int}
    {word : UInt32} :
    within high value = some word ↔ value = some (word.toNat : Int) ∧ 1 ≤ word.toNat ∧
      word.toNat ≤ high := by
  unfold Width.maxWord32 at fits
  cases value with
  | none => simp [within]
  | some n =>
    simp only [within, Option.ite_none_right_eq_some, Option.some.injEq]
    constructor
    · rintro ⟨range, rfl⟩
      have same : (UInt32.ofNat n.toNat).toNat = n.toNat := by
        rw [UInt32.toNat_ofNat', Nat.mod_eq_of_lt (by omega)]
      omega
    · rintro ⟨rfl, range⟩
      exact ⟨by omega, by rw [Int.toNat_natCast, UInt32.ofNat_toNat]⟩

/-- The rule of an accepted draft is in range. -/
theorem inRange_of_rule {rule : BillingRule} (accepted : d.rule = .ok rule) : rule.InRange := by
  obtain ⟨kind, -, accepted⟩ := except_bind_eq_ok_iff.mp accepted
  cases kind with
  | interval =>
    obtain ⟨count, read, accepted⟩ := except_bind_eq_ok_iff.mp accepted
    obtain ⟨unit, -, same⟩ := except_bind_eq_ok_iff.mp accepted
    cases same
    obtain ⟨-, positive, -⟩ := (within_eq_some_iff (Nat.le_refl _)).mp (orElse_eq_ok_iff.mp read)
    exact positive
  | monthlyDate =>
    obtain ⟨day, read, same⟩ := except_bind_eq_ok_iff.mp accepted
    cases same
    exact ((within_eq_some_iff (by decide)).mp (orElse_eq_ok_iff.mp read)).2
  | yearlyDate =>
    obtain ⟨month, readMonth, accepted⟩ := except_bind_eq_ok_iff.mp accepted
    obtain ⟨day, readDay, same⟩ := except_bind_eq_ok_iff.mp accepted
    cases same
    exact ⟨((within_eq_some_iff (by decide)).mp (orElse_eq_ok_iff.mp readMonth)).2,
      ((within_eq_some_iff (by decide)).mp (orElse_eq_ok_iff.mp readDay)).2⟩

/-- Accepted billing has the day of the draft's time, and a rule in range if it has one. -/
theorem of_normalize {b : Billing} (accepted : d.normalize = .ok b) :
    d.nextOccurrence.map Instant.date = some b.nextOccurrence ∧
      ∀ rule, b.rule = some rule → rule.InRange := by
  obtain ⟨type, -, accepted⟩ := except_bind_eq_ok_iff.mp accepted
  obtain ⟨t, entered, accepted⟩ := except_bind_eq_ok_iff.mp accepted
  rw [orElse_eq_ok_iff.mp entered]
  cases type with
  | oneTime =>
    cases accepted
    exact ⟨rfl, nofun⟩
  | recurring =>
    obtain ⟨rule, read, same⟩ := except_bind_eq_ok_iff.mp accepted
    cases same
    refine ⟨rfl, fun _ h => ?_⟩
    cases h
    exact inRange_of_rule read

end BillingDraft

/-! ### Subscriptions with accepted billing -/

namespace Subscription

/-- Of the recurrence columns exactly those of one kind of recurrence are filled in. -/
structure FilledFor (s : Subscription) (kind : RecurrenceType) : Prop where
  recurrenceType : s.recurrenceType = some kind
  intervalCount : s.intervalCount.isSome ↔ kind = .interval
  intervalUnit : s.intervalUnit.isSome ↔ kind = .interval
  monthlyDay : s.monthlyDay.isSome ↔ kind = .monthlyDate
  yearlyMonth : s.yearlyMonth.isSome ↔ kind = .yearlyDate
  yearlyDay : s.yearlyDay.isSome ↔ kind = .yearlyDate

/-- None of the recurrence columns is filled in. -/
structure HasNoRecurrence (s : Subscription) : Prop where
  recurrenceType : s.recurrenceType = none
  intervalCount : s.intervalCount = none
  intervalUnit : s.intervalUnit = none
  monthlyDay : s.monthlyDay = none
  yearlyMonth : s.yearlyMonth = none
  yearlyDay : s.yearlyDay = none

/-- Two subscriptions have everything in common but their billing. -/
structure SameButBilling (s t : Subscription) : Prop where
  id : t.id = s.id
  userId : t.userId = s.userId
  name : t.name = s.name
  amount : t.amount = s.amount
  currency : t.currency = s.currency
  enabled : t.enabled = s.enabled
  notifyEnabled : t.notifyEnabled = s.notifyEnabled
  notifyDaysBefore : t.notifyDaysBefore = s.notifyDaysBefore
  category : t.category = s.category
  paymentMethod : t.paymentMethod = s.paymentMethod
  url : t.url = s.url
  remark : t.remark = s.remark

/-- A subscription with a schedule charges first on the date that it is stored with. -/
theorem nextOnOrAfter?_of_le {s : Subscription} (valid : s.HasValidSchedule) {date start : Date}
    (dated : s.nextOccurrence = some date) (le : start ≤ date) :
    s.nextOnOrAfter? start = some date := by
  obtain ⟨schedule, found⟩ := Option.isSome_iff_exists.mp ((isSome_schedule?_iff s).mpr valid)
  obtain ⟨-, anchored, -⟩ := schedule?_eq_some_iff.mp found
  cases anchored.symm.trans dated
  unfold nextOnOrAfter? Schedule.next?
  rw [found, Option.bind_some, if_pos le]

end Subscription

namespace Billing

variable (b : Billing) (s : Subscription)

theorem sameButBilling_applyTo : s.SameButBilling (b.applyTo s) := by
  constructor <;> rfl

/-- The columns of the rule are filled in and those of the other rules are emptied. -/
theorem filledFor_applyTo {rule : BillingRule} (h : b.rule = some rule) :
    ∃ kind, b.recurrenceType = some kind ∧ (b.applyTo s).FilledFor kind := by
  unfold applyTo intervalCount intervalUnit monthlyDay yearlyMonth yearlyDay recurrenceType
  rw [h]
  cases rule with
  | interval count unit => exact ⟨.interval, rfl, by constructor <;> simp⟩
  | monthlyDate day => exact ⟨.monthlyDate, rfl, by constructor <;> simp⟩
  | yearlyDate month day => exact ⟨.yearlyDate, rfl, by constructor <;> simp⟩

/-- Without a rule every column of every rule is emptied. -/
theorem hasNoRecurrence_applyTo (h : b.rule = none) : (b.applyTo s).HasNoRecurrence := by
  unfold applyTo intervalCount intervalUnit monthlyDay yearlyMonth yearlyDay recurrenceType
  rw [h]
  constructor <;> rfl

/-- A subscription with this billing has a schedule when the billing has a rule in range. -/
theorem hasValidSchedule_applyTo_iff : (b.applyTo s).HasValidSchedule ↔
    ∃ rule, b.rule = some rule ∧ rule.InRange := by
  unfold Subscription.HasValidSchedule Subscription.IsRecurring applyTo
  unfold billingType intervalCount intervalUnit monthlyDay yearlyMonth yearlyDay recurrenceType
  cases b.rule with
  | none => simp
  | some rule => cases rule <;> simp [BillingRule.InRange]

end Billing

/-- **Every accepted draft is a usable schedule.** Whatever the subscription held before, accepted
billing gives it the day of the draft's time, in UTC, and leaves the rest of it alone. If the billing
recurs, the columns of its kind of recurrence, and no others, are filled in, they describe a
schedule, and up to the day entered that day is the next charge. If it does not, every column of a
recurrence is empty. -/
theorem BillingDraft.accepted_draft_is_usable {d : BillingDraft} {b : Billing}
    (accepted : d.normalize = .ok b) (s : Subscription) :
    ∃ t, d.nextOccurrence = some t ∧ (b.applyTo s).nextOccurrence = some t.date ∧
      (b.applyTo s).billingType = b.billingType ∧
      (b.billingType = .recurring → (b.applyTo s).HasValidSchedule ∧
        (b.applyTo s).schedule?.isSome ∧
        (∃ kind, b.recurrenceType = some kind ∧ (b.applyTo s).FilledFor kind) ∧
        ∀ start ≤ t.date, (b.applyTo s).nextOnOrAfter? start = some t.date) ∧
      (b.billingType = .oneTime → (b.applyTo s).HasNoRecurrence) ∧
      s.SameButBilling (b.applyTo s) := by
  obtain ⟨day, inRange⟩ := of_normalize accepted
  obtain ⟨t, entered, dated⟩ := Option.map_eq_some_iff.mp day
  have stored : (b.applyTo s).nextOccurrence = some t.date := congrArg some dated.symm
  refine ⟨t, entered, stored, rfl, fun recurs => ?_, fun once => ?_, b.sameButBilling_applyTo s⟩
  · cases h : b.rule with
    | none =>
      unfold Billing.billingType at recurs
      rw [h] at recurs
      cases recurs
    | some rule =>
      have valid := (b.hasValidSchedule_applyTo_iff s).mpr ⟨rule, h, inRange rule h⟩
      exact ⟨valid, (Subscription.isSome_schedule?_iff _).mpr valid, b.filledFor_applyTo s h,
        fun _ => Subscription.nextOnOrAfter?_of_le valid stored⟩
  · cases h : b.rule with
    | none => exact b.hasNoRecurrence_applyTo s h
    | some rule =>
      unfold Billing.billingType at once
      rw [h] at once
      cases once

namespace Sample

/-- A day in March. -/
def march : Date := (Date.ofYmd? 2026 3 1).getD .first

/-- A charge on the last day of each month, from a day in March on. -/
def draft : BillingDraft :=
  ⟨" recurring ", some "monthly_date", none, none, some 31, none, none, some (.startOf march)⟩

/-- A subscription every two weeks, with a day left over. -/
def fortnightly : Subscription :=
  ⟨7, 1, "Music", .recurring, some .interval, some 2, some .week, some 40, none, none, none,
    .ofBits 0, "EUR", true, none, none, none, none, none, none⟩

end Sample

/-- The last day of each month in place of every two weeks. -/
theorem BillingDraft.accepted_draft_is_usable_sample : ∃ b t, Sample.draft.normalize = .ok b ∧
    b.billingType = .recurring ∧ Sample.fortnightly.monthlyDay = some 40 ∧
      (b.applyTo Sample.fortnightly).HasValidSchedule ∧
      (b.applyTo Sample.fortnightly).intervalCount = none ∧
      (b.applyTo Sample.fortnightly).nextOnOrAfter? t = some t ∧
      Sample.fortnightly.SameButBilling (b.applyTo Sample.fortnightly) := by
  have accepted : Sample.draft.normalize = .ok ⟨Sample.march, some (.monthlyDate 31)⟩ := by rfl
  obtain ⟨t, -, -, -, recurring, -, same⟩ :=
    accepted_draft_is_usable accepted Sample.fortnightly
  obtain ⟨valid, -, -, next⟩ := recurring rfl
  exact ⟨_, t.date, accepted, rfl, rfl, valid, rfl, next t.date (Int.le_refl _), same⟩

end Reminders
