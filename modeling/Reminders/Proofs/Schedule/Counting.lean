import Mathlib.Data.Int.Interval
import Mathlib.Data.Set.Card
import Reminders.Proofs.Schedule.First

/-!
Counting charges.

`Schedule.countFrom` walks from each charge to the first one that is not before the day after it. As
the next charge is the first one of a set of dates, the walk meets every date of the set in the range
once, and it counts them.

* `datesIn`: the dates of a set in a range, of which there are finitely many.
* `countFrom_eq_ncard`: the walk counts the dates of the schedule in the range.
* `countBetween_exact`: the same of a subscription, with what follows for ranges that meet.
-/

namespace Reminders

/-! ### The dates of a range -/

/-- The dates of a set from `start` on and before `stop`. -/
def datesIn (P : Date → Prop) (start stop : Date) : Set Date := {d | P d ∧ start ≤ d ∧ d < stop}

variable {P : Date → Prop} {start mid stop d e : Date}

/-- A range has finitely many dates, no more than it has days. -/
theorem finite_datesIn (P : Date → Prop) (start stop : Date) :
    (datesIn P start stop).Finite ∧
      (datesIn P start stop).ncard ≤ (stop.dayNumber - start.dayNumber).toNat := by
  have inj : Set.InjOn Date.dayNumber (datesIn P start stop) :=
    fun _ _ _ _ same => Date.dayNumber_inj.mp same
  have into : Date.dayNumber '' datesIn P start stop ⊆
      (Finset.Ico start.dayNumber stop.dayNumber : Set Int) := by
    rintro _ ⟨d, ⟨-, le, lt⟩, rfl⟩
    exact Finset.mem_coe.mpr (Finset.mem_Ico.mpr ⟨le, lt⟩)
  refine ⟨.of_finite_image ((Finset.finite_toSet _).subset into) inj, ?_⟩
  rw [← inj.ncard_image, ← Int.card_Ico, ← Set.ncard_coe_finset]
  exact Set.ncard_le_ncard into (Finset.finite_toSet _)

theorem datesIn_eq_empty (h : ∀ e, P e → start ≤ e → stop ≤ e) : datesIn P start stop = ∅ :=
  Set.eq_empty_of_forall_notMem fun e he =>
    Int.not_lt.mpr (h e he.1 he.2.1) he.2.2

/-- Two ranges that meet have the dates of both. -/
theorem ncard_datesIn_add (h : start ≤ mid) (h' : mid ≤ stop) :
    (datesIn P start stop).ncard = (datesIn P start mid).ncard + (datesIn P mid stop).ncard := by
  have apart : Disjoint (datesIn P start mid) (datesIn P mid stop) :=
    Set.disjoint_left.mpr fun e before after => Int.not_lt.mpr after.2.1 before.2.2
  rw [← Set.ncard_union_eq apart (finite_datesIn P start mid).1 (finite_datesIn P mid stop).1]
  congr 1
  ext e
  constructor
  · rintro ⟨he, le, lt⟩
    rcases Int.lt_or_le e.dayNumber mid.dayNumber with before | after
    · exact .inl ⟨he, le, before⟩
    · exact .inr ⟨he, after, lt⟩
  · rintro (⟨he, le, lt⟩ | ⟨he, le, lt⟩)
    · exact ⟨he, le, Int.lt_of_lt_of_le lt h'⟩
    · exact ⟨he, Int.le_trans h le, lt⟩

/-! ### The walk -/

/-- A date is the last of the calendar when no date comes after it. -/
theorem Date.le_of_next?_eq_none (last : d.next? = none) (e : Date) : e ≤ d := by
  have := Date.dayNumber_lt_of_addDays?_eq_none (n := 1) last e
  rw [Date.le_iff]
  omega

/-- After its first date a range goes on with the day after that date. -/
theorem datesIn_eq_insert (first : IsFirst P start (some d)) (early : d < stop)
    (after : d.next? = some e) : datesIn P start stop = insert d (datesIn P e stop) := by
  obtain ⟨mem, le, least⟩ := first
  have number := Date.dayNumber_next? after
  have later {f : Date} : e ≤ f ↔ d < f := by
    rw [Date.le_iff, Date.lt_iff, number]
    exact Int.add_one_le_iff
  ext f
  constructor
  · rintro ⟨hf, le', lt⟩
    rcases Int.lt_or_eq_of_le (least f hf le') with more | same
    · exact .inr ⟨hf, later.mpr more, lt⟩
    · exact .inl (Date.dayNumber_inj.mp same).symm
  · rintro (rfl | ⟨hf, le', lt⟩)
    · exact ⟨mem, le, early⟩
    · exact ⟨hf, Int.le_of_lt (Int.lt_of_le_of_lt le (later.mp le')), lt⟩

/-- The date after which the calendar ends is the only one left. -/
theorem datesIn_eq_singleton (first : IsFirst P start (some d)) (early : d < stop)
    (last : d.next? = none) : datesIn P start stop = {d} := by
  obtain ⟨mem, le, least⟩ := first
  ext f
  constructor
  · rintro ⟨hf, le', -⟩
    exact Date.dayNumber_inj.mp (Int.le_antisymm (Date.le_of_next?_eq_none last f) (least f hf le'))
  · rintro rfl
    exact ⟨mem, le, early⟩

namespace Schedule

/-- **The walk counts the dates of the schedule in the range.** Each restart, at the day after a
charge, finds the very next one. -/
theorem countFrom_eq_ncard (s : Schedule) (stop start : Date) (counted : Nat) :
    s.countFrom stop start counted = counted + (datesIn s.Occurs start stop).ncard := by
  fun_induction countFrom s stop start counted with
  | case1 start counted found =>
    have none := isFirst_next? s start
    rw [found] at none
    rw [datesIn_eq_empty fun e he le => absurd (none e he) (Int.not_lt.mpr le), Set.ncard_empty,
      Nat.add_zero]
  | case2 start counted d found early last =>
    have first := isFirst_next? s start
    rw [found] at first
    rw [datesIn_eq_singleton first early last, Set.ncard_singleton]
  | case3 start counted d found early e after ih =>
    have first := isFirst_next? s start
    rw [found] at first
    have fresh : d ∉ datesIn s.Occurs e stop := by
      rintro ⟨-, le, -⟩
      have := Date.dayNumber_next? after
      rw [Date.le_iff] at le
      omega
    rw [ih, datesIn_eq_insert first early after,
      Set.ncard_insert_of_notMem fresh (finite_datesIn s.Occurs e stop).1]
    omega
  | case4 start counted d found late =>
    have first := isFirst_next? s start
    rw [found] at first
    rw [datesIn_eq_empty fun e he le => Int.le_trans (Int.not_lt.mp late) (first.2.2 e he le),
      Set.ncard_empty, Nat.add_zero]

theorem countBetween_eq_ncard (s : Schedule) (start stop : Date) :
    s.countBetween start stop = (datesIn s.Occurs start stop).ncard := by
  unfold countBetween
  split
  · rename_i empty
    rw [datesIn_eq_empty fun e _ le => Int.le_trans empty le, Set.ncard_empty]
  · rw [countFrom_eq_ncard, Nat.zero_add]

end Schedule

/-! ### Subscriptions -/

/-- The days between two dates are fewer than a counter of 32 bits can count. -/
theorem Date.dayNumber_sub_lt (start stop : Date) :
    (stop.dayNumber - start.dayNumber).toNat < 2 ^ 32 := by
  have within (d : Date) : daysBeforeYear minYear ≤ d.dayNumber ∧
      d.dayNumber < daysBeforeYear (maxYear + 1) := by
    have := daysBeforeMonth_bounds d.year d.month_range
    have := daysBeforeYear_succ d.year
    have := d.dayNumber_bounds
    have := daysBeforeYear_mono d.year_range.1
    have := daysBeforeYear_mono (Int.add_le_add_right d.year_range.2 1)
    unfold monthStart at *
    omega
  have low := (within start).1
  have high := (within stop).2
  unfold daysBeforeYear minYear maxYear at *
  omega

namespace Subscription

/-- The days on which a subscription charges: its date if it charges once, and the dates that its
columns describe if it recurs. -/
def Bills (s : Subscription) (d : Date) : Prop :=
  match s.billingType with
  | .oneTime => s.nextOccurrence = some d
  | .recurring => s.Charges d

theorem countBetween_eq_ncard (s : Subscription) (start stop : Date) :
    s.countBetween start stop = (datesIn s.Bills start stop).ncard := by
  unfold countBetween
  cases kind : s.billingType with
  | oneTime =>
    have bills (d : Date) : s.Bills d ↔ s.nextOccurrence = some d := by
      unfold Bills
      rw [kind]
    cases date : s.nextOccurrence with
    | none =>
      have empty : datesIn s.Bills start stop = ∅ := by
        refine datesIn_eq_empty fun e he => ?_
        rw [bills, date] at he
        cases he
      rw [empty, Set.ncard_empty]
    | some a =>
      have only (d : Date) : s.Bills d ↔ a = d := by rw [bills, date, Option.some.injEq]
      simp only
      split
      · rename_i inside
        have single : datesIn s.Bills start stop = {a} := by
          ext e
          constructor
          · exact fun he => ((only e).mp he.1).symm
          · rintro rfl
            exact ⟨(only _).mpr rfl, inside⟩
        rw [single, Set.ncard_singleton]
      · rename_i outside
        have empty : datesIn s.Bills start stop = ∅ := by
          refine Set.eq_empty_of_forall_notMem fun e he => outside ?_
          rw [(only e).mp he.1]
          exact he.2
        rw [empty, Set.ncard_empty]
  | recurring =>
    have bills (d : Date) : s.Bills d ↔ s.Charges d := by
      unfold Bills
      rw [kind]
    cases found : s.schedule? with
    | none =>
      rw [datesIn_eq_empty, Set.ncard_empty]
      intro e he
      have := (isSome_schedule?_iff s).mpr ((bills e).mp he).1
      rw [found] at this
      cases this
    | some schedule =>
      simp only
      have same : schedule.Occurs = s.Bills :=
        funext fun e => propext ((charges_iff_occurs found e).symm.trans (bills e).symm)
      rw [Schedule.countBetween_eq_ncard, same]

/-- **Counting is exact.** The count of a recurring subscription is the number of the dates that its
columns describe in the range, of which there are finitely many; a single charge counts when its date
lies in the range. An empty range and a recurrence that is not complete count nothing, ranges that
meet add up, and the count fits in 32 bits. -/
theorem countBetween_exact (s : Subscription) (start stop : Date) :
    (s.IsRecurring → {d | s.Charges d ∧ start ≤ d ∧ d < stop}.Finite ∧
      s.countBetween start stop = {d | s.Charges d ∧ start ≤ d ∧ d < stop}.ncard) ∧
    (¬s.IsRecurring →
      (∀ d, s.nextOccurrence = some d →
        s.countBetween start stop = if start ≤ d ∧ d < stop then 1 else 0) ∧
      (s.nextOccurrence = none → s.countBetween start stop = 0)) ∧
    (stop ≤ start → s.countBetween start stop = 0) ∧
    (s.IsRecurring → ¬s.HasValidSchedule → s.countBetween start stop = 0) ∧
    (∀ mid, start ≤ mid → mid ≤ stop →
      s.countBetween start stop = s.countBetween start mid + s.countBetween mid stop) ∧
    s.countBetween start stop < 2 ^ 32 := by
  have bills (h : s.IsRecurring) : s.Bills = s.Charges := by
    unfold Bills
    rw [show s.billingType = .recurring from h]
  refine ⟨fun recurring => ?_, fun single => ?_, fun empty => ?_, fun recurring invalid => ?_,
    fun mid before after => ?_, ?_⟩
  · rw [countBetween_eq_ncard, bills recurring]
    exact ⟨(finite_datesIn s.Charges start stop).1, rfl⟩
  · have kind : s.billingType = .oneTime := by
      cases h : s.billingType with
      | oneTime => rfl
      | recurring => exact absurd h single
    unfold countBetween
    rw [kind]
    constructor
    · intro d date
      rw [date]
    · intro date
      rw [date]
  · rw [countBetween_eq_ncard, datesIn_eq_empty fun e _ le => Int.le_trans empty le,
      Set.ncard_empty]
  · rw [countBetween_eq_ncard, bills recurring, datesIn_eq_empty fun e he => absurd he.1 invalid,
      Set.ncard_empty]
  · rw [countBetween_eq_ncard, countBetween_eq_ncard, countBetween_eq_ncard,
      ncard_datesIn_add before after]
  · rw [countBetween_eq_ncard]
    exact Nat.lt_of_le_of_lt (finite_datesIn s.Bills start stop).2
      (Date.dayNumber_sub_lt start stop)

end Subscription

namespace Sample

/-- The last day of January. -/
def january : Date := (Date.ofYmd? 2026 1 31).getD .first

/-- A single charge on the last day of January. -/
def single : Subscription :=
  ⟨1, 1, "Course", .oneTime, none, none, none, none, none, none, some january, .ofBits 0, "EUR",
    true, none, none, none, none, none, none⟩

/-- A charge that recurs, from the last day of January on; nothing says when. -/
def unsaid : Subscription := { single with billingType := .recurring }

/-- A charge on the last day of each month, from the last day of January on. -/
def monthEnd : Subscription :=
  { unsaid with recurrenceType := some .monthlyDate, monthlyDay := some 31 }

end Sample

open Sample in
/-- Counts over ranges that meet at the last day of January. -/
theorem Subscription.countBetween_exact_sample :
    monthEnd.IsRecurring ∧ Date.first ≤ january ∧ january ≤ Date.last ∧
    monthEnd.countBetween .first .last =
      {d | monthEnd.Charges d ∧ Date.first ≤ d ∧ d < Date.last}.ncard ∧
    monthEnd.countBetween .first .last =
      monthEnd.countBetween .first january + monthEnd.countBetween january .last ∧
    monthEnd.countBetween january .first = 0 ∧
    ¬single.IsRecurring ∧ single.countBetween .first january = 0 ∧
    single.countBetween january .last = 1 ∧
    unsaid.IsRecurring ∧ ¬unsaid.HasValidSchedule ∧ unsaid.countBetween .first .last = 0 := by
  have before : Date.first ≤ january := by decide
  have after : january ≤ Date.last := by decide
  have recurring : monthEnd.IsRecurring := rfl
  have once : ¬single.IsRecurring := by decide
  have invalid : ¬unsaid.HasValidSchedule := fun h => h.2.2
  obtain ⟨counts, -, -, -, adds, -⟩ := countBetween_exact monthEnd .first .last
  obtain ⟨-, -, empty, -⟩ := countBetween_exact monthEnd january .first
  obtain ⟨-, early, -⟩ := countBetween_exact single .first january
  obtain ⟨-, late, -⟩ := countBetween_exact single january .last
  obtain ⟨-, -, -, nothing, -⟩ := countBetween_exact unsaid .first .last
  exact ⟨recurring, before, after, (counts recurring).2, adds january before after, empty before,
    once, (early once).1 january rfl, (late once).1 january rfl, rfl, invalid, nothing rfl invalid⟩

end Reminders
