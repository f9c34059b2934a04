import Reminders.Proofs.Schedule.Reanchor
import Reminders.Scheduler.Rollover

/-!
Rolling over again and again.

A rollover stores the next charge, and the one after it starts from there.

* `Subscription.charges_movedTo_iff`, `Subscription.nextOnOrAfter?_movedTo`: a subscription that keeps
  its day charges as before after it was moved.
* `Subscription.rolledOver_foldl`: then one rollover leads where many lead.
* `Subscription.exists_drifts_scanl`: what is left of the day otherwise.
-/

namespace Reminders

/-- There is one first date. -/
theorem IsFirst.unique {P : Date → Prop} {start : Date} {x y : Option Date}
    (hx : IsFirst P start x) (hy : IsFirst P start y) : x = y := by
  cases y with
  | some d => exact hx.eq_some_iff.mpr (hy.eq_some_iff.mp rfl)
  | none => exact hx.eq_none_iff.mpr (hy.eq_none_iff.mp rfl)

namespace Subscription

variable {s : Subscription} {schedule : Schedule} {a d e today : Date} {step : Nat}

/-- The subscription with another date for its next charge. -/
def movedTo (s : Subscription) (d : Date) : Subscription := { s with nextOccurrence := some d }

@[simp] theorem movedTo_movedTo (s : Subscription) (d e : Date) :
    (s.movedTo d).movedTo e = s.movedTo e := rfl

theorem movedTo_self (stored : s.nextOccurrence = some d) : s.movedTo d = s := by
  cases s
  cases stored
  rfl

/-! ### Where the charges of a moved subscription are -/

theorem exists_schedule (valid : s.HasValidSchedule) : ∃ schedule, s.schedule? = some schedule :=
  Option.isSome_iff_exists.mp ((isSome_schedule?_iff s).mpr valid)

/-- The schedule of a moved subscription starts at the new date. -/
theorem schedule?_movedTo (h : s.schedule? = some schedule) (d : Date) :
    (s.movedTo d).schedule? = some (schedule.reanchor d) := by
  obtain ⟨recurring, -, recurrence⟩ := schedule?_eq_some_iff.mp h
  exact schedule?_eq_some_iff.mpr ⟨recurring, rfl, recurrence⟩

/-- Every month has the day that the intervals of the subscription are counted on, as far as they
count months. -/
def KeepsDay (s : Subscription) : Prop :=
  ∀ a, s.nextOccurrence = some a → s.recurrenceType = some .interval →
    s.intervalUnit = some .month ∨ s.intervalUnit = some .year → a.day ≤ 28

theorem KeepsDay.of_schedule? (keeps : s.KeepsDay) (h : s.schedule? = some schedule) :
    schedule.KeepsDay := by
  obtain ⟨-, stored, recurrence⟩ := schedule?_eq_some_iff.mp h
  rw [recurrence?_eq_some_iff] at recurrence
  obtain ⟨anchor, r⟩ := schedule
  cases kind : s.recurrenceType with
  | none =>
    rw [kind] at recurrence
    exact recurrence.elim
  | some type =>
    rw [kind] at recurrence
    cases type with
    | interval =>
      obtain ⟨count, unit, -, unitStored, pos, rfl⟩ := recurrence
      intro counts
      apply keeps anchor stored kind
      cases unit with
      | day | week => exact counts.elim
      | month => exact .inl unitStored
      | year => exact .inr unitStored
    | monthlyDate =>
      obtain ⟨day, -, range, rfl⟩ := recurrence
      trivial
    | yearlyDate =>
      obtain ⟨month, day, -, -, monthRange, dayRange, rfl⟩ := recurrence
      trivial

/-- **A subscription that keeps its day charges as before** after it was moved to one of its
charges. -/
theorem charges_movedTo_iff (keeps : s.KeepsDay) (h : s.Charges d) (e : Date) :
    (s.movedTo d).Charges e ↔ s.Charges e ∧ d ≤ e := by
  obtain ⟨schedule, found⟩ := exists_schedule h.1
  rw [charges_iff_occurs (schedule?_movedTo found d), charges_iff_occurs found,
    Schedule.occurs_reanchor_iff (keeps.of_schedule? found) ((charges_iff_occurs found d).mp h)]

/-- The next charge is a charge. -/
theorem charges_of_nextOnOrAfter? (h : s.nextOnOrAfter? today = some d) : s.Charges d :=
  ((isFirst_nextOnOrAfter? s today).eq_some_iff.mp h).1.1

/-- **A next charge leads to the same later charges**: the next charge from a later day on is the same
before and after the subscription was moved. -/
theorem nextOnOrAfter?_movedTo (keeps : s.KeepsDay) {t₁ t₂ : Date} (le : t₁ ≤ t₂)
    (h : s.nextOnOrAfter? t₁ = some d) : (s.movedTo d).nextOnOrAfter? t₂ = s.nextOnOrAfter? t₂ := by
  have least := ((isFirst_nextOnOrAfter? s t₁).eq_some_iff.mp h).2
  refine (isFirst_nextOnOrAfter? _ t₂).unique ((isFirst_nextOnOrAfter? s t₂).congr ?_)
  intro e after
  rw [charges_movedTo_iff keeps (charges_of_nextOnOrAfter? h)]
  constructor
  · intro charge
    exact ⟨charge, least ⟨charge, Int.le_trans le after⟩⟩
  · exact And.left

/-- The stored date is the first charge. -/
theorem le_of_charges (stored : s.nextOccurrence = some a) (h : s.Charges d) : a ≤ d := by
  obtain ⟨schedule, found⟩ := exists_schedule h.1
  obtain ⟨-, anchor, -⟩ := schedule?_eq_some_iff.mp found
  cases stored.symm.trans anchor
  exact anchor_le_of_occurs ((charges_iff_occurs found d).mp h)

/-! ### Intervals of months -/

/-- The intervals of the subscription are `step` months long. -/
def StepsByMonths (s : Subscription) (step : Nat) : Prop :=
  s.recurrenceType = some .interval ∧ ∃ count, s.intervalCount = some count ∧
    ((s.intervalUnit = some .month ∧ step = count.toNat) ∨
      (s.intervalUnit = some .year ∧ step = 12 * count.toNat))

theorem StepsByMonths.movedTo (steps : s.StepsByMonths step) (d : Date) :
    (s.movedTo d).StepsByMonths step :=
  steps

/-- **A charge drifts from the stored date** when months are counted. -/
theorem drifts_of_charges (steps : s.StepsByMonths step) (stored : s.nextOccurrence = some a)
    (h : s.Charges d) : a.Drifts step d := by
  obtain ⟨interval, count, counted, unit⟩ := steps
  obtain ⟨-, a', stored', rule⟩ := h
  cases stored.symm.trans stored'
  rw [interval] at rule
  obtain ⟨count', unit', counted', unitStored, k, isStep⟩ := rule
  cases counted.symm.trans counted'
  apply Date.Drifts.of_monthStep
  rcases unit with ⟨month, rfl⟩ | ⟨year, rfl⟩
  · cases unitStored.symm.trans month
    exact ⟨k, isStep⟩
  · cases unitStored.symm.trans year
    obtain ⟨index, falls⟩ := isStep
    refine ⟨k, ?_, falls⟩
    rw [index, Nat.mul_left_comm, Int.natCast_mul 12]
    rfl

/-! ### Rollovers -/

theorem rollover?_eq_some_iff : s.rollover? today = some d ↔
    ∃ stored, s.nextOccurrence = some stored ∧ s.nextOnOrAfter? today = some d ∧ stored < d := by
  unfold rollover?
  cases s.nextOccurrence with
  | none => exact ⟨nofun, fun ⟨_, h, _⟩ => nomatch h⟩
  | some stored =>
    cases s.nextOnOrAfter? today with
    | none => exact ⟨nofun, fun ⟨_, _, h, _⟩ => nomatch h⟩
    | some next =>
      simp only
      split
      · rename_i later
        constructor
        · rintro ⟨⟩
          exact ⟨stored, rfl, rfl, later⟩
        · rintro ⟨_, _, ⟨⟩, _⟩
          rfl
      · rename_i notLater
        constructor
        · exact nofun
        · rintro ⟨_, ⟨⟩, ⟨⟩, later⟩
          exact absurd later notLater

/-- The subscription after a rollover on a day. -/
def rolledOver (s : Subscription) (today : Date) : Subscription :=
  match s.rollover? today with
  | some d => s.movedTo d
  | none => s

/-- A rollover leads to the next charge, whether that is the stored date or not. -/
theorem rolledOver_eq_movedTo (next : s.nextOnOrAfter? today = some d) :
    s.rolledOver today = s.movedTo d := by
  have charge := charges_of_nextOnOrAfter? next
  obtain ⟨a, stored⟩ := Option.isSome_iff_exists.mp charge.1.2.1
  unfold rolledOver
  rcases Int.lt_or_eq_of_le (le_of_charges stored charge) with later | same
  · rw [rollover?_eq_some_iff.mpr ⟨a, stored, next, later⟩]
  · have none : s.rollover? today = none := by
      rw [Option.eq_none_iff_forall_ne_some]
      intro d' h
      obtain ⟨a', stored', next', later⟩ := rollover?_eq_some_iff.mp h
      cases stored.symm.trans stored'
      cases next.symm.trans next'
      exact absurd (Date.lt_iff.mp later) (by omega)
    rw [none]
    cases Date.dayNumber_inj.mp same
    exact (movedTo_self stored).symm

/-- Where there is no next charge, a rollover leaves the subscription as it is. -/
theorem rolledOver_eq_self (none : s.nextOnOrAfter? today = none) : s.rolledOver today = s := by
  have unmoved : s.rollover? today = Option.none := by
    rw [Option.eq_none_iff_forall_ne_some]
    intro d h
    obtain ⟨-, -, next, -⟩ := rollover?_eq_some_iff.mp h
    rw [none] at next
    cases next
  rw [rolledOver, unmoved]

/-- A rollover leads to a charge or nowhere. -/
theorem rolledOver_eq_or (s : Subscription) (today : Date) :
    s.rolledOver today = s ∨ ∃ d, s.Charges d ∧ s.rolledOver today = s.movedTo d := by
  cases next : s.nextOnOrAfter? today with
  | none => exact .inl (rolledOver_eq_self next)
  | some d => exact .inr ⟨d, charges_of_nextOnOrAfter? next, rolledOver_eq_movedTo next⟩

theorem KeepsDay.movedTo (keeps : s.KeepsDay) (h : s.Charges d) : (s.movedTo d).KeepsDay := by
  intro a' stored' interval unit
  cases stored'
  obtain ⟨a, stored⟩ := Option.isSome_iff_exists.mp h.1.2.1
  have short := keeps a stored interval unit
  have steps : ∃ step, s.StepsByMonths step := by
    obtain ⟨-, -, columns⟩ := h.1
    rw [show s.recurrenceType = some .interval from interval] at columns
    obtain ⟨⟨count, counted, -⟩, -⟩ := columns
    rcases unit with month | year
    · exact ⟨_, interval, count, counted, .inl ⟨month, rfl⟩⟩
    · exact ⟨_, interval, count, counted, .inr ⟨year, rfl⟩⟩
  obtain ⟨step, steps⟩ := steps
  exact Nat.le_trans (drifts_of_charges steps stored h).high short

/-- **The dates that rollovers store one after the other drift** when months are counted, and no day
of the month is later than the one before it. -/
theorem exists_drifts_scanl (steps : s.StepsByMonths step) (stored : s.nextOccurrence = some a)
    (days : List Date) :
    ∃ dates : List Date, (days.scanl rolledOver s).map (·.nextOccurrence) = dates.map some ∧
      (∀ d ∈ dates, a.Drifts step d) ∧ dates.Pairwise fun d e => e.day ≤ d.day := by
  induction days generalizing s a with
  | nil =>
    refine ⟨[a], by rw [List.scanl_nil, List.map_singleton, stored]; rfl, ?_, ?_⟩
    · intro d mem
      rw [List.mem_singleton.mp mem]
      exact .refl a step
    · exact List.pairwise_singleton _ a
  | cons day rest ih =>
    have moved : ∃ d, (s.rolledOver day).nextOccurrence = some d ∧ a.Drifts step d ∧
        (s.rolledOver day).StepsByMonths step := by
      rcases rolledOver_eq_or s day with same | ⟨d, charge, same⟩
      · rw [same]
        exact ⟨a, stored, .refl a step, steps⟩
      · rw [same]
        exact ⟨d, rfl, drifts_of_charges steps stored charge, steps.movedTo d⟩
    obtain ⟨d, stored', first, steps'⟩ := moved
    obtain ⟨dates, same, all, falling⟩ := ih steps' stored'
    refine ⟨a :: dates, ?_, ?_, List.pairwise_cons.mpr ⟨?_, falling⟩⟩
    · rw [List.scanl_cons, List.map_cons, List.map_cons, same, stored]
    · intro e mem
      rcases List.mem_cons.mp mem with rfl | mem
      · exact .refl e step
      · exact first.trans (all e mem)
    · intro e mem
      exact (first.trans (all e mem)).high

/-- **One rollover leads where many lead**: for a subscription that keeps its day, rollovers on days
up to the last one, in any order and number, change nothing about where the last one leads. -/
theorem rolledOver_foldl (keeps : s.KeepsDay) (days : List Date) (upTo : ∀ day ∈ days, day ≤ today)
    (next : s.nextOnOrAfter? today = some d) :
    (days.foldl rolledOver s).rolledOver today = s.rolledOver today := by
  induction days generalizing s with
  | nil => rfl
  | cons day rest ih =>
    obtain ⟨le, later⟩ := List.forall_mem_cons.mp upTo
    rw [List.foldl_cons]
    cases first : s.nextOnOrAfter? day with
    | none => rw [rolledOver_eq_self first, ih keeps later next]
    | some d' =>
      have same := nextOnOrAfter?_movedTo keeps le first
      rw [rolledOver_eq_movedTo first,
        ih (keeps.movedTo (charges_of_nextOnOrAfter? first)) later (same.trans next),
        rolledOver_eq_movedTo (same.trans next), rolledOver_eq_movedTo next, movedTo_movedTo]

end Subscription

/-- The store after the overdue subscriptions of a user were moved forward. -/
def Store.rolledOver (user : Int) (s : Store) (today : Date) : Store :=
  ((Script.advanceUser user today).run .open s).2

end Reminders
