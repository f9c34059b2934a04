import Reminders.Proofs.Scheduler.Forward

/-!
Rolling over late.

The scheduler may have been down for a day or for a year. A subscription that keeps its day has the
same date afterwards as if it had been rolled over all the time, as long as it still has a charge
to come and the day is one whose text compares as a date does.

* `Script.rows_advanceUser`: what moving subscriptions forward makes of each row.
* `Row.Rolled.step`: what rollovers on earlier days leave of a row.
* `Store.rolled_over_alike`: the rows after many rollovers and after one.
* `Subscription.rollover_path_independent`, with the two limits in
  `Subscription.rollover_path_dependent`.
-/

namespace Reminders

open Store

/-! ### What a rollover makes of a row -/

namespace Row

variable {r r' r'' : Row SubscriptionColumn} {sub : Subscription} {d today day : Date} {user : Int}

/-- The row after a rollover: a row that cannot be read stays as it is. -/
def rolledOver (today : Date) (r : Row SubscriptionColumn) : Row SubscriptionColumn :=
  match Subscription.ofRow r with
  | .ok (.ok sub) =>
    match sub.rollover? today with
    | some d => r.movedTo d
    | none => r
  | _ => r

theorem rolledOver_of_some (read : Subscription.ofRow r = .ok (.ok sub))
    (moves : sub.rollover? today = some d) : r.rolledOver today = r.movedTo d := by
  simp only [rolledOver, read, moves]

theorem rolledOver_of_none (read : Subscription.ofRow r = .ok (.ok sub))
    (stays : sub.rollover? today = none) : r.rolledOver today = r := by
  simp only [rolledOver, read, stays]

/-- A rollover moves the row or leaves it. -/
theorem rolledOver_eq_or (r : Row SubscriptionColumn) (today : Date) :
    r.rolledOver today = r ∨ ∃ sub d, Subscription.ofRow r = .ok (.ok sub) ∧
      sub.rollover? today = some d ∧ r.rolledOver today = r.movedTo d := by
  unfold rolledOver
  split
  · rename_i sub read
    split
    · rename_i d moves
      exact .inr ⟨sub, d, read, moves, rfl⟩
    · exact .inl rfl
  · exact .inl rfl

/-- The query for overdue subscriptions of a user finds the row. -/
def IsOverdue (user : Int) (today : Date) (r : Row SubscriptionColumn) : Prop :=
  (r.cell .userId).IsInt user ∧ StoredRecurring r ∧ StoredBefore r today.toText

instance (user : Int) (today : Date) (r : Row SubscriptionColumn) :
    Decidable (r.IsOverdue user today) :=
  inferInstanceAs (Decidable (_ ∧ _))

/-- The row after a rollover of the user's overdue subscriptions. -/
def broughtUpTo (user : Int) (today : Date) (r : Row SubscriptionColumn) : Row SubscriptionColumn :=
  if r.IsOverdue user today then r.rolledOver today else r

end Row

namespace Store

variable {s : Store} {user : Int} {today : Date}

/-- The query for overdue subscriptions reads the rows that it finds. -/
theorem findOverdue_eq (s : Store) (user : Int) (today : Date) : s.findOverdue user today =
    readSubscriptions (s.subscriptions.rows.filter fun r => decide (r.IsOverdue user today)) := by
  rw [findOverdue, ofUser, List.filter_filter]
  congr 1
  apply List.filter_congr
  intro r _
  rw [Bool.and_comm, ← Bool.decide_and, ← Bool.decide_and]
  rfl

/-- The query succeeds when every row that it finds can be read. -/
theorem exists_findOverdue_iff : (∃ subs, s.findOverdue user today = .ok subs) ↔
    ∀ r ∈ s.subscriptions.rows, r.IsOverdue user today → ∃ x, Subscription.ofRow r = .ok x := by
  rw [findOverdue_eq, exists_readSubscriptions_iff]
  simp only [List.mem_filter, decide_eq_true_eq, and_imp]

/-- What the query gives: the subscriptions in the overdue rows. -/
theorem mem_findOverdue_iff {subs : List Subscription} (found : s.findOverdue user today = .ok subs)
    {sub : Subscription} : sub ∈ subs ↔
      ∃ r ∈ s.subscriptions.rows, r.IsOverdue user today ∧ Subscription.ofRow r = .ok (.ok sub) := by
  rw [findOverdue_eq] at found
  rw [mem_readSubscriptions_iff found]
  simp only [List.mem_filter, decide_eq_true_eq, and_assoc]

/-- Which rows the query gives. -/
theorem mem_ids_findOverdue_iff {subs : List Subscription}
    (found : s.findOverdue user today = .ok subs) {r : Row SubscriptionColumn}
    (mem : r ∈ s.subscriptions.rows) : r.id ∈ subs.map (·.id) ↔
      r.IsOverdue user today ∧ ∃ sub, Subscription.ofRow r = .ok (.ok sub) := by
  constructor
  · intro known
    obtain ⟨sub, known, same⟩ := List.mem_map.mp known
    obtain ⟨r', mem', overdue, read⟩ := (mem_findOverdue_iff found).mp known
    have same_id := (Subscription.ofRow_eq_ok_ok read).1.symm.trans same
    cases Table.eq_of_id_eq mem' mem same_id
    exact ⟨overdue, sub, read⟩
  · rintro ⟨overdue, sub, read⟩
    have known := (mem_findOverdue_iff found).mpr ⟨r, mem, overdue, read⟩
    exact List.mem_map.mpr ⟨sub, known, (Subscription.ofRow_eq_ok_ok read).1⟩

end Store

namespace Script

variable {s : Store} {user : Int} {today : Date}

/-- What is done with a result leaves the store as it is. -/
theorem run_bind_pure (x : Script α) (f : α → β) (desk : Desk) (s : Store) :
    ((x >>= fun a => pure (f a)).run desk s).2 = (x.run desk s).2 := by
  change ((x.bind fun a => .done (f a)).run desk s).2 = _
  induction x generalizing s with
  | done a => rfl
  | fail failure => rfl
  | ask call next ih =>
    simp only [bind, run]
    cases s.serve desk call with
    | error e => rfl
    | ok served => exact ih served.1 served.2

/-- Rolling over subscriptions one after the other rolls over their rows. -/
theorem rows_advanceEach {subs : List Subscription} (distinct : (subs.map (·.id)).Nodup)
    (current : ∀ sub ∈ subs, Current user s sub) :
    ((advanceEach today subs).run .open s).2.subscriptions.rows =
      s.subscriptions.rows.map fun r =>
        if r.id ∈ subs.map (·.id) then r.rolledOver today else r := by
  induction subs generalizing s with
  | nil => simp [advanceEach]
  | cons sub rest ih =>
    obtain ⟨fresh, distinct⟩ := List.nodup_cons.mp distinct
    obtain ⟨⟨r₀, mem₀, read⟩, later⟩ := List.forall_mem_cons.mp current
    obtain ⟨sub_id, -⟩ := Subscription.ofRow_eq_ok_ok read
    have same_row {r : Row SubscriptionColumn} (mem : r ∈ s.subscriptions.rows)
        (same : r.id = sub.id) : r = r₀ :=
      Table.eq_of_id_eq mem (mem_ofUser_iff.mp mem₀).1 (same.trans sub_id)
    have here (r : Row SubscriptionColumn) (same : r.id = sub.id) :
        r.id ∈ (sub :: rest).map (·.id) := same ▸ List.mem_cons_self
    have elsewhere (r : Row SubscriptionColumn) (other : r.id ≠ sub.id) :
        r.id ∈ (sub :: rest).map (·.id) ↔ r.id ∈ rest.map (·.id) := by
      rw [List.map_cons, List.mem_cons]
      exact or_iff_right other
    unfold advanceEach
    split
    · rename_i d moves
      have others : ∀ other ∈ rest, Current user (s.updateNextOccurrence sub.id d) other := by
        intro other mem
        refine (later other mem).updateNextOccurrence (fun same => fresh ?_) d
        exact List.mem_map.mpr ⟨other, mem, same⟩
      have ran : ((call (.updateNextOccurrence sub.id d) >>= fun _ => do
          return (← advanceEach today rest) + 1 : Script Nat).run .open s).2 =
          ((advanceEach today rest).run .open (s.updateNextOccurrence sub.id d)).2 :=
        run_bind_pure (advanceEach today rest) (· + 1) .open _
      refine (congrArg (·.subscriptions.rows) ran).trans ?_
      rw [ih distinct others]
      simp only [updateNextOccurrence, Table.set, Table.modify, List.map_map]
      apply List.map_congr_left
      intro r mem
      by_cases same : r.id = sub.id
      · rw [if_pos (here r same), same_row mem same, Row.rolledOver_of_some read moves]
        simp only [Function.comp_apply, if_pos sub_id.symm]
        apply if_neg
        intro again
        rw [← sub_id] at again
        exact fresh again
      · simp only [Function.comp_apply, if_neg same, elsewhere r same]
    · rename_i stays
      rw [ih distinct later]
      apply List.map_congr_left
      intro r mem
      by_cases same : r.id = sub.id
      · rw [same_row mem same, Row.rolledOver_of_none read stays, ite_self, ite_self]
      · simp only [elsewhere r same]

/-- **A rollover brings every overdue row of the user up to date** and leaves the other rows. -/
theorem rows_advanceUser {subs : List Subscription} (found : s.findOverdue user today = .ok subs) :
    ((advanceUser user today).run .open s).2.subscriptions.rows =
      s.subscriptions.rows.map (Row.broughtUpTo user today) := by
  have ran : (advanceUser user today).run .open s = (advanceEach today subs).run .open s := by
    change (Script.bind (call (.findOverdue user today)) (advanceEach today)).run .open s = _
    simp only [call, bind, run, serve, Desk.open, answer, found]
    rfl
  have read := found
  rw [findOverdue_eq] at read
  have ascending := readSubscriptions_ascending read (s.subscriptions.ascending.filter _)
  have current : ∀ sub ∈ subs, Current user s sub := by
    intro sub known
    obtain ⟨r, mem, overdue, read⟩ := (mem_findOverdue_iff found).mp known
    exact ⟨r, mem_ofUser_iff.mpr ⟨mem, overdue.1⟩, read⟩
  rw [ran, rows_advanceEach (List.pairwise_map.mpr (ascending.imp Int.ne_of_lt)) current]
  apply List.map_congr_left
  intro r mem
  unfold Row.broughtUpTo
  by_cases here : r.IsOverdue user today
  · rw [if_pos here]
    split
    · rfl
    · rename_i absent
      rcases Row.rolledOver_eq_or r today with same | ⟨sub, d, read, -, -⟩
      · exact same.symm
      · exact absurd ((mem_ids_findOverdue_iff found mem).mpr ⟨here, sub, read⟩) absent
  · rw [if_neg here, if_neg fun known => here ((mem_ids_findOverdue_iff found mem).mp known).1]

/-- A rollover whose query fails changes no row. -/
theorem rows_advanceUser_of_error {e : StoreError} (failed : s.findOverdue user today = .error e) :
    ((advanceUser user today).run .open s).2.subscriptions.rows = s.subscriptions.rows := by
  have ran : ((advanceUser user today).run .open s).2 = s := by
    change ((Script.bind (call (.findOverdue user today)) (advanceEach today)).run .open s).2 = s
    simp only [call, bind, run, serve, Desk.open, answer, failed]
    rfl
  rw [ran]

end Script

/-! ### Rollovers on earlier days -/

/-- The subscription goes on from a date with the next charge that it has anyway. -/
structure Subscription.SameNext (s : Subscription) (today d : Date) : Prop where
  keeps : (s.movedTo d).KeepsDay
  charges : (s.movedTo d).Charges d
  next : (s.movedTo d).nextOnOrAfter? today = s.nextOnOrAfter? today

/-- A subscription that keeps its day goes on from any next charge on an earlier day. -/
theorem Subscription.KeepsDay.sameNext {s : Subscription} {day today d : Date} (keeps : s.KeepsDay)
    (upTo : day ≤ today) (next : s.nextOnOrAfter? day = some d) : s.SameNext today d where
  keeps := keeps.movedTo (charges_of_nextOnOrAfter? next)
  charges := by
    have charge := charges_of_nextOnOrAfter? next
    exact (charges_movedTo_iff keeps charge d).mpr ⟨charge, Int.le_refl _⟩
  next := nextOnOrAfter?_movedTo keeps upTo next

namespace Row

/-- What rollovers on days up to a day leave of a row: the row, or the row with a later date, from
where a subscription that keeps its day has the same next charge on that day. -/
def Rolled (user : Int) (today : Date) (r r' : Row SubscriptionColumn) : Prop :=
  r' = r ∨ ∃ sub stored d, Subscription.ofRow r = .ok (.ok sub) ∧ r.IsOverdue user today ∧
    sub.nextOccurrence = some stored ∧ stored < d ∧ r' = r.movedTo d ∧
      (sub.KeepsDay → sub.SameNext today d)

variable {r r' : Row SubscriptionColumn} {sub : Subscription} {d n today day : Date} {user : Int}

/-- A row that is overdue on a day is overdue later on. -/
theorem IsOverdue.mono (overdue : r.IsOverdue user day) (upTo : day ≤ today)
    (range : 0 ≤ today.year ∧ today.year ≤ 9999) : r.IsOverdue user today := by
  obtain ⟨theirs, recurring, before⟩ := overdue
  refine ⟨theirs, recurring, ?_⟩
  rcases Int.lt_or_eq_of_le upTo with less | same
  · unfold StoredBefore at before ⊢
    split
    · rename_i text stored
      simp only [stored] at before
      exact String.lt_trans before (Date.toText_lt_of_lt less range)
    · rename_i other
      split at before
      · rename_i text stored
        exact other text stored
      · exact before
  · cases Date.dayNumber_inj.mp same
    exact before

/-- A rollover moves an overdue row or leaves the row. -/
theorem broughtUpTo_eq_or (user : Int) (day : Date) (r : Row SubscriptionColumn) :
    r.broughtUpTo user day = r ∨ ∃ sub stored d, Subscription.ofRow r = .ok (.ok sub) ∧
      r.IsOverdue user day ∧ sub.nextOccurrence = some stored ∧
        sub.nextOnOrAfter? day = some d ∧ stored < d ∧ r.broughtUpTo user day = r.movedTo d := by
  unfold broughtUpTo
  split
  · rename_i overdue
    rcases rolledOver_eq_or r day with same | ⟨sub, d, read, moves, same⟩
    · exact .inl same
    · obtain ⟨stored, dated, next, less⟩ := Subscription.rollover?_eq_some_iff.mp moves
      exact .inr ⟨sub, stored, d, read, overdue, dated, next, less, same⟩
  · exact .inl rfl

/-- **Every rollover on an earlier day** leaves what such rollovers leave. -/
theorem Rolled.step (range : 0 ≤ today.year ∧ today.year ≤ 9999) (upTo : day ≤ today)
    (rolled : Rolled user today r r') : Rolled user today r (r'.broughtUpTo user day) := by
  rcases broughtUpTo_eq_or user day r' with same | ⟨sub', stored', d', read', overdue', dated',
    next', later', same⟩
  · rwa [same]
  rw [same]
  have goes_on (keeps : sub'.KeepsDay) : sub'.SameNext today d' := keeps.sameNext upTo next'
  rcases rolled with rfl | ⟨sub, stored, d, read, overdue, dated, later, rfl, kept⟩
  · exact .inr ⟨sub', stored', d', read', overdue'.mono upTo range, dated', later', rfl, goes_on⟩
  · cases Except.ok.inj (Except.ok.inj (read'.symm.trans (Subscription.ofRow_movedTo read d)))
    cases dated'
    refine .inr ⟨sub, stored, d', read, overdue, dated, Int.lt_trans later later', ?_, ?_⟩
    · exact movedTo_movedTo r _ d'
    · intro keeps
      have first := kept keeps
      have second := goes_on first.keeps
      exact ⟨second.keeps, second.charges, second.next.trans first.next⟩

/-- What is left of a row that can be read can be read. -/
theorem Rolled.readable (rolled : Rolled user today r r')
    (readable : r.IsOverdue user today → ∃ x, Subscription.ofRow r = .ok x)
    (overdue : r'.IsOverdue user today) : ∃ x, Subscription.ofRow r' = .ok x := by
  rcases rolled with rfl | ⟨sub, -, d, read, -, -, -, rfl, -⟩
  · exact readable overdue
  · exact ⟨_, Subscription.ofRow_movedTo read d⟩

theorem broughtUpTo_id (user : Int) (today : Date) (r : Row SubscriptionColumn) :
    (r.broughtUpTo user today).id = r.id := by
  rcases broughtUpTo_eq_or user today r with same | ⟨-, -, d, -, -, -, -, -, same⟩
  · rw [same]
  · rw [same, movedTo_id]

/-- Where a rollover leads from an overdue row whose subscription has a charge to come. -/
theorem broughtUpTo_eq_movedTo {stored : Date} (read : Subscription.ofRow r = .ok (.ok sub))
    (overdue : r.IsOverdue user today) (dated : sub.nextOccurrence = some stored)
    (next : sub.nextOnOrAfter? today = some n) (later : stored < n) :
    r.broughtUpTo user today = r.movedTo n := by
  rw [broughtUpTo, if_pos overdue]
  exact rolledOver_of_some read (Subscription.rollover?_eq_some_iff.mpr ⟨stored, dated, next, later⟩)

/-- **A rollover leads to the same row** whether there were rollovers before it or not. -/
theorem Rolled.broughtUpTo_eq (range : 0 ≤ today.year ∧ today.year ≤ 9999)
    (rolled : Rolled user today r r') (read : Subscription.ofRow r = .ok (.ok sub))
    (keeps : sub.KeepsDay) (next : sub.nextOnOrAfter? today = some n) :
    r'.broughtUpTo user today = r.broughtUpTo user today := by
  rcases rolled with rfl | ⟨sub', stored, d, read', overdue, dated, later, rfl, kept⟩
  · rfl
  cases Except.ok.inj (Except.ok.inj (read'.symm.trans read))
  have kept := kept keeps
  have next' := kept.next.trans next
  have le : d ≤ n := Subscription.le_of_charges rfl (Subscription.charges_of_nextOnOrAfter? next')
  rw [broughtUpTo_eq_movedTo read overdue dated next (Int.lt_of_lt_of_le later le)]
  rcases Int.lt_or_eq_of_le le with less | same
  · -- The moved date lies before the day, as a text too, or it would be the next charge.
    have before : d < today := by
      apply Int.not_le.mp
      intro after
      have least := ((Subscription.isFirst_nextOnOrAfter? _ today).eq_some_iff.mp next').2
      exact Int.not_le.mpr less (least ⟨kept.charges, after⟩)
    have overdue' : (r.movedTo d).IsOverdue user today :=
      ⟨overdue.1, overdue.2.1, Date.toText_lt_of_lt before range⟩
    rw [broughtUpTo_eq_movedTo (Subscription.ofRow_movedTo read d) overdue' rfl next' less,
      movedTo_movedTo]
  · obtain rfl := Date.dayNumber_inj.mp same
    rcases broughtUpTo_eq_or user today (r.movedTo d) with same | ⟨sub', stored', d', read', -, dated',
      next'', less, -⟩
    · exact same
    · cases Except.ok.inj (Except.ok.inj (read'.symm.trans (Subscription.ofRow_movedTo read d)))
      cases next'.symm.trans next''
      cases dated'
      exact absurd less (Int.lt_irrefl _)

end Row

/-! ### A rollover after a long downtime -/

namespace Store

variable {s t : Store} {user : Int} {today : Date}

/-- A rollover that gives a number has found its rows. -/
theorem exists_findOverdue {n : Nat}
    (ran : ((Script.advanceUser user today).run .open s).1 = .ok n) :
    ∃ subs, s.findOverdue user today = .ok subs := by
  obtain ⟨subs, t, answered, -⟩ := Script.run_call_bind_eq_ok_iff.mp (Prod.ext ran rfl)
  exact ⟨subs, (Script.map_store_eq_ok_iff.mp answered).1⟩

/-- Rollovers on days up to a day leave of each row what one of them leaves. -/
theorem forall₂_rolledOver (range : 0 ≤ today.year ∧ today.year ≤ 9999) (days : List Date)
    (upTo : ∀ day ∈ days, day ≤ today)
    (rolled : List.Forall₂ (Row.Rolled user today) s.subscriptions.rows t.subscriptions.rows) :
    List.Forall₂ (Row.Rolled user today) s.subscriptions.rows
      (days.foldl (rolledOver user) t).subscriptions.rows := by
  induction days generalizing t with
  | nil => exact rolled
  | cons day rest ih =>
    obtain ⟨le, later⟩ := List.forall_mem_cons.mp upTo
    apply ih later
    cases found : t.findOverdue user day with
    | error e => rwa [rolledOver, Script.rows_advanceUser_of_error found]
    | ok subs =>
      rw [rolledOver, Script.rows_advanceUser found, List.forall₂_map_right_iff]
      exact rolled.imp fun _ _ rolled => rolled.step range le

/-- **Rollovers on many days and one on the last day lead to the same row** for a subscription that
keeps its day and has a charge to come. -/
theorem rolled_over_alike {r : Row SubscriptionColumn} {sub : Subscription} {next : Date} {n : Nat}
    (range : 0 ≤ today.year ∧ today.year ≤ 9999) (days : List Date)
    (upTo : ∀ day ∈ days, day ≤ today)
    (ran : ((Script.advanceUser user today).run .open s).1 = .ok n) (mem : r ∈ s.subscriptions.rows)
    (read : Subscription.ofRow r = .ok (.ok sub)) (keeps : sub.KeepsDay)
    (charge : sub.nextOnOrAfter? today = some next) :
    r.broughtUpTo user today ∈ (rolledOver user s today).subscriptions.rows ∧
      r.broughtUpTo user today ∈
        (rolledOver user (days.foldl (rolledOver user) s) today).subscriptions.rows := by
  obtain ⟨subs, found⟩ := exists_findOverdue ran
  have rows : List.Forall₂ (Row.Rolled user today) s.subscriptions.rows
      (days.foldl (rolledOver user) s).subscriptions.rows :=
    forall₂_rolledOver range days upTo (List.forall₂_same.mpr fun _ _ => .inl rfl)
  generalize days.foldl (rolledOver user) s = t at rows ⊢
  obtain ⟨length, related⟩ := List.forall₂_iff_get.mp rows
  -- Rows that the last query finds late can be read, as they could be before.
  have readable := exists_findOverdue_iff.mp ⟨subs, found⟩
  obtain ⟨subs', found'⟩ : ∃ subs', t.findOverdue user today = .ok subs' := by
    refine exists_findOverdue_iff.mpr fun r' mem' overdue => ?_
    obtain ⟨i, lt, rfl⟩ := List.mem_iff_getElem.mp mem'
    exact (related i (length ▸ lt) lt).readable (readable _ (List.getElem_mem _)) overdue
  obtain ⟨i, lt, rfl⟩ := List.mem_iff_getElem.mp mem
  have same := (related i lt (length ▸ lt)).broughtUpTo_eq range read keeps charge
  constructor
  · rw [rolledOver, Script.rows_advanceUser found]
    exact List.mem_map.mpr ⟨_, mem, rfl⟩
  · rw [rolledOver, Script.rows_advanceUser found']
    exact List.mem_map.mpr ⟨_, List.getElem_mem (length ▸ lt), same⟩

end Store

namespace Subscription

/-- **Rollover is path independent as long as there is a charge to come.** For a subscription that
keeps its day: its next charge is the same before and after a rollover on an earlier day; many
rollovers lead where the last one alone leads; and in the store too, on days whose text compares as
a date does, when the subscriptions that are overdue on the last day can be read. Where there is no
charge to come any more, the last rollover does nothing. -/
theorem rollover_path_independent :
    (∀ (sub : Subscription) (t₁ t₂ d : Date), sub.KeepsDay → t₁ ≤ t₂ →
      sub.nextOnOrAfter? t₁ = some d →
        (sub.movedTo d).nextOnOrAfter? t₂ = sub.nextOnOrAfter? t₂) ∧
    (∀ (sub : Subscription) (days : List Date) (today : Date), sub.KeepsDay →
      (∀ day ∈ days, day ≤ today) →
        (∀ d, sub.nextOnOrAfter? today = some d →
          (days.foldl rolledOver sub).rolledOver today = sub.rolledOver today ∧
            sub.rolledOver today = sub.movedTo d) ∧
        (sub.nextOnOrAfter? today = none → sub.rolledOver today = sub)) ∧
    ∀ (s : Store) (user : Int) (days : List Date) (today : Date) (n : Nat)
      (r : Row SubscriptionColumn) (sub : Subscription) (d : Date),
      (0 ≤ today.year ∧ today.year ≤ 9999) → (∀ day ∈ days, day ≤ today) →
      ((Script.advanceUser user today).run .open s).1 = .ok n → r ∈ s.subscriptions.rows →
      ofRow r = .ok (.ok sub) → sub.KeepsDay → sub.nextOnOrAfter? today = some d →
        ∃ r' ∈ (s.rolledOver user today).subscriptions.rows, r'.id = r.id ∧
          r' ∈ ((days.foldl (Store.rolledOver user) s).rolledOver user today).subscriptions.rows := by
  refine ⟨?_, ?_, ?_⟩
  · intro sub t₁ t₂ d keeps le next
    exact nextOnOrAfter?_movedTo keeps le next
  · intro sub days today keeps upTo
    constructor
    · intro d next
      exact ⟨rolledOver_foldl keeps days upTo next, rolledOver_eq_movedTo next⟩
    · exact rolledOver_eq_self
  · intro s user days today n r sub d range upTo ran mem read keeps next
    obtain ⟨once, often⟩ := Store.rolled_over_alike range days upTo ran mem read keeps next
    exact ⟨_, once, r.broughtUpTo_id user today, often⟩

/-- A weekly subscription that is rolled over on two days on the way or on the last day only. -/
theorem rollover_path_independent_sample :
    ∃ (t₁ t₂ : Date) (sub : Subscription) (d₁ d₂ : Date), t₁ ≤ t₂ ∧ t₂ ≤ Sample.today ∧
      ofRow ⟨1, Sample.cells .week "2026-02-01"⟩ = .ok (.ok sub) ∧ sub.KeepsDay ∧
      sub.nextOnOrAfter? t₁ = some d₁ ∧ sub.nextOnOrAfter? Sample.today = some d₂ ∧
      (sub.movedTo d₁).nextOnOrAfter? Sample.today = some d₂ ∧
      ([t₁, t₂].foldl rolledOver sub).rolledOver Sample.today = sub.movedTo d₂ ∧
      ∃ r ∈ ((Sample.subscribed .week "2026-02-01").rolledOver 1 Sample.today).subscriptions.rows,
        r ∈ (([t₁, t₂].foldl (Store.rolledOver 1) (Sample.subscribed .week "2026-02-01")).rolledOver 1
          Sample.today).subscriptions.rows := by
  have held : Sample.Holds ⟨1, Sample.cells .week "2026-02-01"⟩ fun sub =>
      sub.intervalUnit = some .week ∧
        sub.nextOnOrAfter? (Sample.day 2026 2 10) = some (Sample.day 2026 2 15) ∧
        sub.nextOnOrAfter? Sample.today = some Sample.today := by decide +kernel
  obtain ⟨n, ran⟩ : ∃ n, ((Script.advanceUser 1 Sample.today).run .open
      (Sample.subscribed .week "2026-02-01")).1 = .ok n := by
    have ends : ((Script.advanceUser 1 Sample.today).run .open
        (Sample.subscribed .week "2026-02-01")).1.toOption.isSome := by decide +kernel
    cases ran : ((Script.advanceUser 1 Sample.today).run .open
        (Sample.subscribed .week "2026-02-01")).1 with
    | ok n => exact ⟨n, rfl⟩
    | error e => rw [ran] at ends; cases ends
  obtain ⟨sub, read, unit, first, last⟩ := held
  have keeps : sub.KeepsDay := by
    rintro - - - (month | year)
    · cases unit.symm.trans month
    · cases unit.symm.trans year
  have upTo : ∀ day ∈ [Sample.day 2026 2 10, Sample.day 2026 2 20], day ≤ Sample.today := by decide
  obtain ⟨same, folded, stored⟩ := rollover_path_independent
  obtain ⟨r, once, -, often⟩ := stored (Sample.subscribed .week "2026-02-01") 1 _ Sample.today n _ sub
    _ (by decide) upTo ran List.mem_cons_self read keeps last
  obtain ⟨often', once'⟩ := (folded sub _ Sample.today keeps upTo).1 _ last
  exact ⟨_, _, sub, _, _, by decide, by decide, read, keeps, first, last,
    (same sub _ Sample.today _ keeps (by decide) first).trans last, often'.trans once', r, once, often⟩

/-- A daily subscription beside one of the same user that cannot be read. -/
def Sample.besideUnreadable : Store where
  users := Sample.store.users
  subscriptions := ⟨[⟨1, Sample.cells .day "2026-02-01"⟩,
    ⟨2, fun
      | .intervalCount => .text "one"
      | column => Sample.cells .day "2026-03-03" column⟩], 2, by simp, by simp⟩
  policies := .empty
  channels := .empty
  logs := .empty

/-- **Rollover depends on the path where the last one does nothing**: when the calendar ends before
the next charge, when the year has five digits, and when the user has another overdue subscription
that cannot be read. Then a rollover on the way has left a later date. -/
theorem rollover_path_dependent :
    (∃ t₁ t₂ : Date, t₁ ≤ t₂ ∧
      Sample.Holds ⟨1, Sample.cells .year "+262141-06-01"⟩ (fun sub => sub.schedule?.isSome ∧
        (∃ a, sub.nextOccurrence = some a ∧ a.day ≤ 28) ∧ sub.nextOnOrAfter? t₂ = none) ∧
      (∃ r ∈ ([t₁, t₂].foldl (Store.rolledOver 1)
        (Sample.subscribed .year "+262141-06-01")).subscriptions.rows,
          (r.cell .nextOccurrence).IsText "+262142-06-01") ∧
      ∃ r ∈ ((Sample.subscribed .year "+262141-06-01").rolledOver 1 t₂).subscriptions.rows,
        (r.cell .nextOccurrence).IsText "+262141-06-01") ∧
    (∃ t₁ t₂ : Date, t₁ ≤ t₂ ∧
      Sample.Holds ⟨1, Sample.cells .day "9999-12-30"⟩ (fun sub => sub.nextOnOrAfter? t₂ = some t₂) ∧
      (∃ r ∈ ([t₁, t₂].foldl (Store.rolledOver 1)
        (Sample.subscribed .day "9999-12-30")).subscriptions.rows,
          (r.cell .nextOccurrence).IsText "9999-12-31") ∧
      ∃ r ∈ ((Sample.subscribed .day "9999-12-30").rolledOver 1 t₂).subscriptions.rows,
        (r.cell .nextOccurrence).IsText "9999-12-30") ∧
    ∃ t₁ t₂ : Date, t₁ ≤ t₂ ∧
      Sample.Holds ⟨1, Sample.cells .day "2026-02-01"⟩ (fun sub => sub.nextOnOrAfter? t₂ = some t₂) ∧
      (∃ r ∈ ([t₁, t₂].foldl (Store.rolledOver 1) Sample.besideUnreadable).subscriptions.rows,
        r.id = 1 ∧ (r.cell .nextOccurrence).IsText "2026-03-01") ∧
      ∃ r ∈ (Sample.besideUnreadable.rolledOver 1 t₂).subscriptions.rows,
        r.id = 1 ∧ (r.cell .nextOccurrence).IsText "2026-02-01" := by
  refine ⟨⟨Sample.day 262142 1 1,
      Sample.day 262142 7 1, by decide, ?_, ?_, ?_⟩,
    ⟨Sample.day 9999 12 31,
      Sample.day 10000 1 5, by decide, ?_, ?_, ?_⟩,
    ⟨Sample.today, Sample.day 2026 3 5, by decide, ?_, ?_, ?_⟩⟩
  · have held : Sample.Holds ⟨1, Sample.cells .year "+262141-06-01"⟩ fun sub =>
      sub.schedule?.isSome ∧ sub.nextOccurrence = some (Sample.day 262141 6 1) ∧
        sub.nextOnOrAfter? (Sample.day 262142 7 1) = none := by decide +kernel
    obtain ⟨sub, read, valid, stored, none⟩ := held
    exact ⟨sub, read, valid, ⟨_, stored, by decide⟩, none⟩
  all_goals decide +kernel

end Subscription

end Reminders
