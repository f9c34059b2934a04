import Reminders.Proofs.Schedule.RestOfMonth
import Reminders.Proofs.Scheduler.UpToDate

/-!
What the dashboard counts.

A dashboard moves what is over to today or later, and then counts the charges of the whole month. So
of a subscription that recurs it counts the charges from today on, as they were before it was moved,
while a single charge counts wherever it lies in the month. What is not enabled is moved, too, but
it does not count.

* `Subscription.countBetween_of_upToDate`: what is counted of one subscription.
* `Summary.covers_ofSubscriptions`: how the sums come about.
* `Script.summary_counts_rest_of_month`
-/

namespace Reminders

open Store

variable {user : Int} {today first stop : Date}

/-! ### One subscription -/

namespace Subscription

variable {s s' : Subscription}

/-- What becomes of a subscription when its user is brought up to date. -/
def UpToDate (user : Int) (today : Date) (s s' : Subscription) : Prop :=
  (∃ d, s.MovesTo user today d ∧ s' = s.movedTo d) ∨ (∀ d, ¬s.MovesTo user today d) ∧ s' = s

/-- If the subscription is over, it has a charge from the day on, unless it has no schedule. -/
def GoesOn (s : Subscription) (today : Date) : Prop :=
  s.HasValidSchedule → ∀ a, s.nextOccurrence = some a → a < today →
    ∃ d, s.nextOnOrAfter? today = some d

open Classical in
/-- The charges that a dashboard of the day counts: those of a schedule from the day on and before
the next month, which starts with `stop`, and a single charge that lies anywhere in the month. -/
noncomputable def dueFrom (s : Subscription) (today stop : Date) : Nat :=
  match s.billingType with
  | .recurring =>
    if s.HasValidSchedule then {d | s.Charges d ∧ today ≤ d ∧ d < stop}.ncard else 0
  | .oneTime =>
    match s.nextOccurrence with
    | some d => if d.year = today.year ∧ d.month = today.month then 1 else 0
    | none => 0

theorem UpToDate.enabled_eq (upToDate : s.UpToDate user today s') : s'.enabled = s.enabled := by
  obtain ⟨d, -, rfl⟩ | ⟨-, rfl⟩ := upToDate <;> rfl

theorem UpToDate.currency_eq (upToDate : s.UpToDate user today s') : s'.currency = s.currency := by
  obtain ⟨d, -, rfl⟩ | ⟨-, rfl⟩ := upToDate <;> rfl

theorem dueFrom_of_isRecurring (recurring : s.IsRecurring) :
    s.dueFrom today stop = (datesIn s.Charges today stop).ncard := by
  unfold dueFrom
  rw [show s.billingType = .recurring from recurring]
  by_cases valid : s.HasValidSchedule
  · exact if_pos valid
  · rw [datesIn_eq_empty fun e he => absurd he.1 valid, Set.ncard_empty]
    exact if_neg valid

/-- Two dates lie in the same month. -/
theorem monthIndex_eq_iff {d e : Date} :
    d.monthIndex = e.monthIndex ↔ d.year = e.year ∧ d.month = e.month := by
  have := d.month_range
  have := e.month_range
  unfold Date.monthIndex
  omega

/-- A single charge is counted when it lies in the month. -/
theorem countBetween_of_single (month : Date.IsMonth first stop)
    (here : today.monthIndex = first.monthIndex) (single : s.billingType = .oneTime) :
    s.countBetween first stop = s.dueFrom today stop := by
  unfold countBetween dueFrom
  rw [single]
  cases s.nextOccurrence with
  | none => rfl
  | some d =>
    have inside : (first ≤ d ∧ d < stop) ↔ (d.year = today.year ∧ d.month = today.month) := by
      rw [month.mem_iff, ← here, monthIndex_eq_iff]
    simp only [inside]

/-- **What is counted of a subscription** in the month of the day, once it is up to date. -/
theorem countBetween_of_upToDate (month : Date.IsMonth first stop)
    (here : today.monthIndex = first.monthIndex) (owner : s.userId = user)
    (goesOn : s.GoesOn today) (upToDate : s.UpToDate user today s') :
    s'.countBetween first stop = s.dueFrom today stop := by
  obtain ⟨d, moves, rfl⟩ | ⟨stays, rfl⟩ := upToDate
  · have recurring : (s.movedTo d).IsRecurring := moves.recurring
    rw [dueFrom_of_isRecurring moves.recurring, ← datesIn_movedTo month here moves.next]
    exact ((countBetween_exact (s.movedTo d) first stop).1 recurring).2
  · cases kind : s'.billingType with
    | oneTime => exact countBetween_of_single month here kind
    | recurring =>
      have recurring : s'.IsRecurring := kind
      rw [dueFrom_of_isRecurring recurring]
      refine (((countBetween_exact s' first stop).1 recurring).2).trans ?_
      by_cases valid : s'.HasValidSchedule
      · obtain ⟨a, stored⟩ := Option.isSome_iff_exists.mp valid.2.1
        have ahead : today ≤ a := by
          apply Int.not_lt.mp
          intro late
          obtain ⟨d, next⟩ := goesOn valid a stored late
          exact stays d ⟨owner, recurring, ⟨a, stored, late⟩, next⟩
        exact congrArg Set.ncard (datesIn_of_le month here stored ahead)
      · refine congrArg Set.ncard ((datesIn_eq_empty fun e he => absurd he.1 valid).trans ?_)
        exact (datesIn_eq_empty fun e he => absurd he.1 valid).symm

end Subscription

/-! ### The sums -/

namespace Summary

variable {sums : List (String × CurrencyTotal)} {s : Subscription} {currency c : String}
  {change : CurrencyTotal → CurrencyTotal}

/-- The charges of a currency in some sums. -/
def due (currency : String) (sums : List (String × CurrencyTotal)) : Nat :=
  ((sums.filter fun entry => entry.1 = currency).map (·.2.dueThisMonth)).sum

theorem mem_currencies_adjust_iff : c ∈ (adjust currency change sums).map Prod.fst ↔
    c = currency ∨ c ∈ sums.map Prod.fst := by
  induction sums with
  | nil => simp [adjust]
  | cons entry rest ih =>
    unfold adjust
    split
    · simp
    · split
      · rename_i same
        simp [same]
      · rw [List.map_cons, List.mem_cons, ih, List.map_cons, List.mem_cons, or_left_comm]

/-- Sums stay in the order of their currencies. -/
theorem ascending_adjust (ascending : (sums.map Prod.fst).Pairwise (· < ·)) :
    ((adjust currency change sums).map Prod.fst).Pairwise (· < ·) := by
  induction sums with
  | nil => exact List.pairwise_singleton _ _
  | cons entry rest ih =>
    obtain ⟨least, later⟩ := List.pairwise_cons.mp ascending
    unfold adjust
    split
    · rename_i before
      refine List.pairwise_cons.mpr ⟨fun c mem => ?_, ascending⟩
      rcases List.mem_cons.mp mem with rfl | mem
      · exact before
      · exact String.lt_trans before (least c mem)
    · split
      · exact ascending
      · rename_i notBefore different
        refine List.pairwise_cons.mpr ⟨fun c mem => ?_, ih later⟩
        rcases mem_currencies_adjust_iff.mp mem with rfl | mem
        · apply String.not_le.mp
          intro le
          exact different (String.le_antisymm le (String.not_lt.mp notBefore))
        · exact least c mem

/-- One more subscription adds its charges to those of its currency. -/
theorem due_adjust (s : Subscription) (start stop : Date) (sums : List (String × CurrencyTotal)) :
    due c (adjust s.currency (·.add s start stop) sums) =
      due c sums + if s.currency = c then s.countBetween start stop else 0 := by
  unfold due
  induction sums with
  | nil =>
    by_cases same : s.currency = c <;> simp [adjust, same, CurrencyTotal.add, CurrencyTotal.zero]
  | cons entry rest ih =>
    unfold adjust
    split
    · by_cases same : s.currency = c <;>
        simp [same, CurrencyTotal.add, CurrencyTotal.zero, Nat.add_comm]
    · split
      · rename_i found
        by_cases same : entry.1 = c <;> simp [found, same, CurrencyTotal.add]
        omega
      · by_cases same : entry.1 = c <;> simp [same, ih]
        omega

/-- The dashboard covers the subscriptions: it has the currencies of those that are enabled, in
order, and adds up what is counted of each. -/
structure Covers (summary : Summary) (subs : List Subscription) (count : Subscription → Nat) :
    Prop where
  active : summary.active = subs.countP (·.enabled)
  ascending : (summary.byCurrency.map Prod.fst).Pairwise (· < ·)
  currencies : ∀ c, c ∈ summary.byCurrency.map Prod.fst ↔
    ∃ s ∈ subs, s.enabled = true ∧ s.currency = c
  due : ∀ c, due c summary.byCurrency =
    ((subs.filter fun s => s.enabled && decide (s.currency = c)).map count).sum

variable {summary : Summary} {subs subs' : List Subscription} {count count' : Subscription → Nat}

/-- **One more subscription** is covered, too. -/
theorem Covers.add {start : Date} (covers : summary.Covers subs (·.countBetween start stop))
    (s : Subscription) :
    (summary.add s start stop).Covers (subs ++ [s]) (·.countBetween start stop) := by
  unfold Summary.add
  cases enabled : s.enabled with
  | false =>
    exact
      { active := by simp [covers.active, enabled]
        ascending := covers.ascending
        currencies := fun c => by simp [covers.currencies, enabled]
        due := fun c => by simp [covers.due, enabled] }
  | true =>
    exact
      { active := by simp [covers.active, enabled]
        ascending := ascending_adjust covers.ascending
        currencies := fun c => by
          rw [if_pos rfl, mem_currencies_adjust_iff, covers.currencies, or_comm, eq_comm]
          simp [enabled]
        due := fun c => by
          rw [if_pos rfl, due_adjust, covers.due]
          by_cases same : s.currency = c <;> simp [enabled, same] }

/-- **How the sums come about.** -/
theorem covers_ofSubscriptions (subs : List Subscription) (start stop : Date) :
    (ofSubscriptions subs start stop).Covers subs (·.countBetween start stop) := by
  induction subs using List.reverseRecOn with
  | nil => exact ⟨rfl, .nil, by simp [ofSubscriptions, empty], fun _ => rfl⟩
  | append_singleton subs s ih =>
    rw [ofSubscriptions, List.foldl_append]
    exact ih.add s

/-- Only what is counted of the subscriptions matters. -/
theorem Covers.of_forall₂ (same : List.Forall₂ (fun s s' : Subscription => s'.enabled = s.enabled ∧
      s'.currency = s.currency ∧ count' s' = count s) subs subs')
    (covers : summary.Covers subs' count') : summary.Covers subs count := by
  suffices alike : subs'.countP (·.enabled) = subs.countP (·.enabled) ∧
      (∀ c, (∃ s ∈ subs', s.enabled = true ∧ s.currency = c) ↔
        ∃ s ∈ subs, s.enabled = true ∧ s.currency = c) ∧
      ∀ c, ((subs'.filter fun s => s.enabled && decide (s.currency = c)).map count').sum =
        ((subs.filter fun s => s.enabled && decide (s.currency = c)).map count).sum from
    ⟨covers.active.trans alike.1, covers.ascending,
      fun c => (covers.currencies c).trans (alike.2.1 c),
      fun c => (covers.due c).trans (alike.2.2 c)⟩
  clear covers
  induction same with
  | nil => exact ⟨rfl, fun _ => Iff.rfl, fun _ => rfl⟩
  | @cons s s' subs subs' first _ ih =>
    obtain ⟨enabled, currency, counted⟩ := first
    obtain ⟨active, currencies, sums⟩ := ih
    refine ⟨?_, fun c => ?_, fun c => ?_⟩
    · rw [List.countP_cons, List.countP_cons, active, enabled]
    · rw [List.exists_mem_cons_iff, List.exists_mem_cons_iff, currencies, enabled, currency]
    · rw [List.filter_cons, List.filter_cons, enabled, currency]
      split
      · rw [List.map_cons, List.map_cons, List.sum_cons, List.sum_cons, sums, counted]
      · exact sums c

/-- The charges of a currency stand beside its name. -/
theorem dueThisMonth_eq {t : CurrencyTotal} (ascending : (sums.map Prod.fst).Pairwise (· < ·))
    (mem : (c, t) ∈ sums) : t.dueThisMonth = due c sums := by
  induction sums with
  | nil => exact absurd mem List.not_mem_nil
  | cons entry rest ih =>
    obtain ⟨least, later⟩ := List.pairwise_cons.mp ascending
    unfold due
    rcases List.mem_cons.mp mem with rfl | mem
    · have alone : (rest.filter fun entry => decide (entry.1 = c)) = [] := by
        refine List.filter_eq_nil_iff.mpr fun entry mem same => ?_
        have less := least entry.1 (List.mem_map.mpr ⟨entry, mem, rfl⟩)
        rw [of_decide_eq_true same] at less
        exact String.lt_irrefl _ less
      rw [List.filter_cons_of_pos (by simp), alone]
      simp
    · have different : entry.1 ≠ c := by
        rintro rfl
        exact String.lt_irrefl _ (least _ (List.mem_map.mpr ⟨_, mem, rfl⟩))
      rw [List.filter_cons_of_neg (by simpa using different)]
      exact ih later mem

end Summary

/-! ### The subscriptions of a user -/

namespace Store

variable {s after : Store} {subs subs' : List Subscription}

/-- A rollover leaves the rows of a user with the user. -/
theorem ofUser_broughtUpTo
    (rows : after.subscriptions.rows = s.subscriptions.rows.map (Row.broughtUpTo user today)) :
    after.ofUser user = (s.ofUser user).map (Row.broughtUpTo user today) := by
  rw [ofUser, ofUser, rows, List.filter_map]
  congr 1
  apply List.filter_congr
  intro r _
  rcases Row.broughtUpTo_eq_or user today r with same | ⟨-, -, d, -, -, -, -, -, same⟩
  · rw [Function.comp_apply, same]
  · rw [Function.comp_apply, same, Row.movedTo_cell d (by decide)]

/-- The query for the subscriptions of a user succeeds. -/
theorem Recorded.exists_findSubscriptions (recorded : s.Recorded) (user : Int) :
    ∃ subs, s.findSubscriptions user = .ok subs :=
  exists_readSubscriptions_iff.mpr fun r mem => recorded.readable r (List.mem_filter.mp mem).1

/-- **The user's subscriptions after a rollover**, beside what they were before it. -/
theorem forall₂_findSubscriptions (built : s.Built) (years : s.FourDigitYears)
    (range : 0 ≤ today.year ∧ today.year ≤ 9999)
    (rows : after.subscriptions.rows = s.subscriptions.rows.map (Row.broughtUpTo user today))
    (found : s.findSubscriptions user = .ok subs)
    (found' : after.findSubscriptions user = .ok subs') :
    List.Forall₂ (fun sub sub' => sub.userId = user ∧ (∃ r ∈ s.subscriptions.rows,
      Subscription.ofRow r = .ok (.ok sub)) ∧ sub.UpToDate user today sub') subs subs' := by
  rw [readSubscriptions_eq found, readSubscriptions_eq found', ofUser_broughtUpTo rows,
    List.filterMap_map]
  apply forall₂_filterMap
  intro r mine
  obtain ⟨mem, owner⟩ := mem_ofUser_iff.mp mine
  obtain ⟨sub, records⟩ := built.recorded r mem
  have read (r : Row SubscriptionColumn) {sub : Subscription}
      (read : Subscription.ofRow r = .ok (.ok sub)) :
      (Subscription.ofRow r).toOption.bind Except.toOption = some sub :=
    toOption_bind_toOption_eq_some.mpr read
  have owner := records.isInt_userId_iff.mp owner
  have upToDate : Row.UpToDate user today r (r.broughtUpTo user today) :=
    records.upToDate (fun a => years r mem sub a records.read) range
  obtain ⟨sub', same, ⟨d, moves, -, read'⟩ | ⟨stays, unmoved⟩⟩ := upToDate
  · cases records.unique same
    exact ⟨sub, sub.movedTo d, read r same, read _ read', owner, ⟨r, mem, same⟩,
      .inl ⟨d, moves, rfl⟩⟩
  · cases records.unique same
    refine ⟨sub, sub, read r same, ?_, owner, ⟨r, mem, same⟩, .inr ⟨stays, rfl⟩⟩
    rw [Function.comp_apply, unmoved]
    exact read r same

end Store

namespace Script

variable {s : Store}

/-- **What the dashboard counts.** On a store that its own statements wrote, in years of four
digits, when what is over of the user has a charge from the day on: the dashboard shows the number
of the subscriptions that are enabled and has exactly their currencies, in order and each once. In
each currency it counts, of those that are enabled, the charges of a schedule from the day on and
before the next month, as they were before the call; a single charge that lies anywhere in the
month; and nothing for what recurs without a schedule. What is not enabled is brought up to date
like the rest. -/
theorem summary_counts_rest_of_month (built : s.Built) (years : s.FourDigitYears)
    (range : 0 ≤ today.year ∧ today.year ≤ 9999) (user : Int)
    (goesOn : ∀ r ∈ s.subscriptions.rows, ∀ sub, Subscription.ofRow r = .ok (.ok sub) →
      sub.userId = user → sub.GoesOn today) :
    ∃ (subs : List Subscription) (shown : Summary) (after : Store) (stop : Date),
      s.findSubscriptions user = .ok subs ∧
      (summary user today).run .open s = (.ok shown, after) ∧
      (stop.day = 1 ∧ stop.monthIndex = today.monthIndex + 1) ∧
      shown.active = subs.countP (·.enabled) ∧
      (shown.byCurrency.map Prod.fst).Pairwise (· < ·) ∧
      (∀ currency, currency ∈ shown.byCurrency.map Prod.fst ↔
        ∃ sub ∈ subs, sub.enabled = true ∧ sub.currency = currency) ∧
      (∀ currency total, (currency, total) ∈ shown.byCurrency → total.dueThisMonth =
        ((subs.filter fun sub => sub.enabled && decide (sub.currency = currency)).map
          (·.dueFrom today stop)).sum) ∧
      List.Forall₂ (Row.UpToDate user today) s.subscriptions.rows after.subscriptions.rows := by
  obtain ⟨first, stop, bounds, month, here⟩ :=
    today.isMonth_of_monthBounds (by unfold maxYear; omega)
  obtain ⟨overdue, foundOverdue⟩ := built.recorded.exists_findOverdue user today
  have rows := rows_advanceUser foundOverdue
  have ran := run_advanceUser_open foundOverdue
  have recorded : ((advanceUser user today).run .open s).2.Recorded :=
    Built.recorded (built.trans (changes_run _ .open s))
  generalize ((advanceUser user today).run .open s).2 = after at rows ran recorded
  obtain ⟨subs, found⟩ := built.recorded.exists_findSubscriptions user
  obtain ⟨subs', found'⟩ := recorded.exists_findSubscriptions user
  have covers : (Summary.ofSubscriptions subs' first stop).Covers subs (·.dueFrom today stop) := by
    refine .of_forall₂ ?_ (Summary.covers_ofSubscriptions subs' first stop)
    refine (forall₂_findSubscriptions built years range rows found found').imp ?_
    rintro sub sub' ⟨owner, ⟨r, mem, read⟩, upToDate⟩
    exact ⟨upToDate.enabled_eq, upToDate.currency_eq,
      Subscription.countBetween_of_upToDate month here owner (goesOn r mem sub read owner) upToDate⟩
  refine ⟨subs, .ofSubscriptions subs' first stop, after, stop, found, ?_,
    ⟨month.closes, by rw [month.next, here]⟩, covers.active, covers.ascending, covers.currencies,
    ?_, forall₂_upToDate built years range rows⟩
  · rw [summary_eq, run_bind, ran]
    unfold totals
    rw [bounds]
    change (ask (.findSubscriptions user) _).run .open after = _
    simp only [run, serve_open, answer, found']
    rfl
  · intro currency total mem
    rw [Summary.dueThisMonth_eq covers.ascending mem, covers.due]

/-- Three weekly charges and a single one are left of a month; what is paused does not count. -/
theorem summary_counts_rest_of_month_sample :
    ∃ (subs : List Subscription) (shown : Summary) (after : Store) (stop : Date),
      Sample.household.findSubscriptions 1 = .ok subs ∧
      (summary 1 (Sample.day 2026 3 10)).run .open Sample.household = (.ok shown, after) ∧
      shown.active = 2 ∧ subs.countP (·.enabled) = 2 ∧ shown.byCurrency.map Prod.fst = ["EUR"] ∧
      ∀ total, ("EUR", total) ∈ shown.byCurrency → total.dueThisMonth = 4 ∧
        ((subs.filter fun sub => sub.enabled && decide (sub.currency = "EUR")).map
          (·.dueFrom (Sample.day 2026 3 10) stop)).sum = 4 := by
  have held : ∀ r ∈ Sample.household.subscriptions.rows, Sample.Holds r fun sub =>
      (sub.nextOnOrAfter? (Sample.day 2026 3 10)).isSome ∨ ¬sub.IsRecurring := by decide +kernel
  obtain ⟨subs, shown, after, stop, found, ran, -, active, -, -, due, -⟩ :=
    summary_counts_rest_of_month Sample.built_household Sample.fourDigitYears_household
      (by decide : 0 ≤ (Sample.day 2026 3 10).year ∧ (Sample.day 2026 3 10).year ≤ 9999) 1 <| by
        intro r mem sub read _ valid a _ _
        obtain ⟨sub', read', next⟩ := held r mem
        cases Except.ok.inj (Except.ok.inj (read.symm.trans read'))
        exact Option.isSome_iff_exists.mp (next.resolve_right (not_not.mpr valid.1))
  have shows : ((summary 1 (Sample.day 2026 3 10)).run .open Sample.household).1.toOption.map
      (fun shown => (shown.active, shown.byCurrency.map fun entry =>
        (entry.1, entry.2.dueThisMonth))) = some (2, [("EUR", 4)]) := by decide +kernel
  rw [ran] at shows
  obtain ⟨two, sums⟩ := Prod.mk.inj (Option.some.inj shows)
  have names : shown.byCurrency.map Prod.fst = ["EUR"] := by
    simpa using congrArg (List.map Prod.fst) sums
  refine ⟨subs, shown, after, stop, found, ran, two, active.symm.trans two, names, ?_⟩
  intro total mem
  have four : total.dueThisMonth = 4 := by
    have entry := List.mem_map_of_mem (f := fun entry => (entry.1, entry.2.dueThisMonth)) mem
    rw [sums] at entry
    simpa using entry
  exact ⟨four, (due _ _ mem).symm.trans four⟩

end Script

end Reminders
