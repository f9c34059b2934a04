import Reminders.Proofs.Scheduler.Downtime

/-!
Rolling over twice.

What moving a user's subscriptions forward does can be read off the store beforehand: a list of
moves, one for each overdue subscription that has a later charge. They are carried out one by one,
up to the first that is refused. A move takes itself off the list and leaves the others on it, so
doing it all again ends in the same way and writes nothing.

* `Script.run_advanceUser_eq`: moving subscriptions forward carries out the plan.
* `Store.plan_updateNextOccurrence`: a move takes itself off the plan.
* `Script.run_advanceUser_again`: the second time nothing is written.
-/

namespace Reminders

open Store

/-- A subscription that was moved to a charge charges there. -/
theorem Subscription.charges_movedTo_self {s : Subscription} {d : Date} (h : s.Charges d) :
    (s.movedTo d).Charges d := by
  obtain ⟨schedule, found⟩ := exists_schedule h.1
  rw [charges_iff_occurs (schedule?_movedTo found d)]
  exact occurs_anchor (schedule.reanchor d)

/-! ### The plan -/

namespace Row

variable {r : Row SubscriptionColumn} {sub : Subscription} {d today : Date} {user : Int}

/-- Where the subscription in the row moves, if the query for overdue subscriptions finds it. -/
def move? (user : Int) (today : Date) (r : Row SubscriptionColumn) : Option (Int × Date) :=
  if r.IsOverdue user today then
    match Subscription.ofRow r with
    | .ok (.ok sub) => (sub.rollover? today).map (r.id, ·)
    | _ => none
  else none

theorem move?_eq_some_iff {m : Int × Date} : r.move? user today = some m ↔
    r.IsOverdue user today ∧ ∃ sub d, Subscription.ofRow r = .ok (.ok sub) ∧
      sub.rollover? today = some d ∧ m = (r.id, d) := by
  unfold move?
  by_cases overdue : r.IsOverdue user today
  · rw [if_pos overdue]
    split
    · rename_i sub read
      rw [Option.map_eq_some_iff]
      constructor
      · rintro ⟨d, moves, rfl⟩
        exact ⟨overdue, sub, d, read, moves, rfl⟩
      · rintro ⟨-, sub', d, read', moves, rfl⟩
        cases Except.ok.inj (Except.ok.inj (read.symm.trans read'))
        exact ⟨d, moves, rfl⟩
    · rename_i unread
      constructor
      · exact nofun
      · rintro ⟨-, sub, d, read, -⟩
        exact absurd read (unread sub)
  · rw [if_neg overdue]
    exact ⟨nofun, fun h => absurd h.1 overdue⟩

/-- A move is that of the row. -/
theorem id_of_move? {m : Int × Date} (moves : r.move? user today = some m) : m.1 = r.id := by
  obtain ⟨-, -, -, -, -, rfl⟩ := move?_eq_some_iff.mp moves
  rfl

/-- A row that has moved does not move again on that day or before, even when its text still comes
before the text of the day. -/
theorem move?_movedTo {t : Date} (read : Subscription.ofRow r = .ok (.ok sub))
    (moves : sub.rollover? today = some d) (upTo : t ≤ today) :
    (r.movedTo d).move? user t = none := by
  rw [Option.eq_none_iff_forall_ne_some]
  intro m again
  obtain ⟨-, sub', d', read', moves', -⟩ := move?_eq_some_iff.mp again
  cases Except.ok.inj (Except.ok.inj (read'.symm.trans (Subscription.ofRow_movedTo read d)))
  obtain ⟨stored, dated, next', later⟩ := Subscription.rollover?_eq_some_iff.mp moves'
  obtain ⟨-, -, next, -⟩ := Subscription.rollover?_eq_some_iff.mp moves
  cases dated
  -- The date that the row has moved to is a charge from the day on, and the next one is no later.
  have from_today := ((Subscription.isFirst_nextOnOrAfter? sub today).eq_some_iff.mp next).1.2
  have least := ((Subscription.isFirst_nextOnOrAfter? _ t).eq_some_iff.mp next').2
  have le : d' ≤ d := least ⟨Subscription.charges_movedTo_self
    (Subscription.charges_of_nextOnOrAfter? next), Int.le_trans upTo from_today⟩
  exact absurd later (Int.not_lt.mpr le)

end Row

namespace Store

variable {s : Store} {user id : Int} {d today : Date}

/-- The moves that bring the user's overdue subscriptions up to date, in the order of their ids. -/
def plan (s : Store) (user : Int) (today : Date) : List (Int × Date) :=
  s.subscriptions.rows.filterMap (Row.move? user today)

/-- The moves of the overdue subscriptions that the query gives. -/
theorem plan_eq {subs : List Subscription} (found : s.findOverdue user today = .ok subs) :
    (subs.filterMap fun sub => (sub.rollover? today).map (sub.id, ·)) = s.plan user today := by
  rw [findOverdue_eq] at found
  rw [readSubscriptions_eq found, List.filterMap_filterMap, ← List.filterMap_eq_filter,
    List.filterMap_filterMap, plan]
  apply List.filterMap_congr
  intro r _
  unfold Row.move?
  by_cases overdue : r.IsOverdue user today
  · rw [if_pos overdue]
    simp only [Option.guard, decide_eq_true overdue, if_true, Option.bind_some]
    cases read : Subscription.ofRow r with
    | error e => rfl
    | ok reading =>
      cases reading with
      | error e => rfl
      | ok sub =>
        simp only [Except.toOption, Option.bind_some, (Subscription.ofRow_eq_ok_ok read).1]
  · rw [if_neg overdue]
    simp only [Option.guard, decide_eq_false overdue, Bool.false_eq_true, if_false,
      Option.bind_none]

/-- The moves are in the order of the ids. -/
theorem ascending_plan (s : Store) (user : Int) (today : Date) :
    ((s.plan user today).map Prod.fst).Pairwise (· < ·) := by
  rw [List.pairwise_map, plan, List.pairwise_filterMap]
  refine s.subscriptions.ascending.imp fun {a b} less m move m' move' => ?_
  rwa [Row.id_of_move? move, Row.id_of_move? move']

/-- No two moves are of one subscription. -/
theorem nodup_plan (s : Store) (user : Int) (today : Date) :
    ((s.plan user today).map Prod.fst).Nodup :=
  (s.ascending_plan user today).imp fun less => Int.ne_of_lt less

/-- A move in the plan is that of a row of the user. -/
theorem mem_plan_iff {m : Int × Date} : m ∈ s.plan user today ↔
    ∃ r ∈ s.subscriptions.rows, r.IsOverdue user today ∧ ∃ sub d,
      Subscription.ofRow r = .ok (.ok sub) ∧ sub.rollover? today = some d ∧ m = (r.id, d) := by
  simp only [plan, List.mem_filterMap, Row.move?_eq_some_iff]

/-- **A move takes itself off the plan**, and the query for overdue subscriptions still succeeds. -/
theorem plan_updateNextOccurrence {rest : List (Int × Date)}
    (readable : ∃ subs, s.findOverdue user today = .ok subs)
    (planned : s.plan user today = (id, d) :: rest) :
    (s.updateNextOccurrence id d).plan user today = rest ∧
      ∃ subs, (s.updateNextOccurrence id d).findOverdue user today = .ok subs := by
  obtain ⟨r₀, mem₀, overdue, sub, d', read, moves, same⟩ := mem_plan_iff.mp
    (planned ▸ List.mem_cons_self : (id, d) ∈ s.plan user today)
  cases same
  have here {r : Row SubscriptionColumn} (mem : r ∈ s.subscriptions.rows) (same : r.id = r₀.id) :
      r = r₀ := Table.eq_of_id_eq mem mem₀ same
  have rows : (s.updateNextOccurrence r₀.id d).subscriptions.rows =
      s.subscriptions.rows.map fun r => if r.id = r₀.id then r.movedTo d else r := rfl
  constructor
  · have off : ((s.plan user today).filter fun m => decide (m.1 ≠ r₀.id)) = rest := by
      have distinct := s.nodup_plan user today
      rw [planned] at distinct ⊢
      obtain ⟨alone, -⟩ := List.nodup_cons.mp distinct
      rw [List.filter_cons_of_neg (by simp), List.filter_eq_self]
      intro m mem
      rw [decide_eq_true_eq]
      exact fun same => alone (List.mem_map.mpr ⟨m, mem, same⟩)
    rw [← off, plan, plan, rows, List.filterMap_map, List.filter_filterMap]
    apply List.filterMap_congr
    intro r mem
    by_cases same : r.id = r₀.id
    · have moved : r₀.move? user today = some (r₀.id, d) :=
        Row.move?_eq_some_iff.mpr ⟨overdue, sub, d, read, moves, rfl⟩
      rw [here mem same, moved, Function.comp_apply, if_pos rfl,
        Row.move?_movedTo read moves (Int.le_refl _)]
      exact (if_neg (by simp)).symm
    · rw [Function.comp_apply, if_neg same]
      cases move : r.move? user today with
      | none => rfl
      | some m =>
        obtain ⟨-, -, -, -, -, rfl⟩ := Row.move?_eq_some_iff.mp move
        exact (if_pos (decide_eq_true same)).symm
  · rw [exists_findOverdue_iff] at readable ⊢
    rw [rows, List.forall_mem_map]
    intro r mem late
    by_cases same : r.id = r₀.id
    · rw [if_pos same, here mem same]
      exact ⟨_, Subscription.ofRow_movedTo read d⟩
    · rw [if_neg same] at late ⊢
      exact readable r mem late

/-- The store after some moves. -/
def carriedOut (s : Store) (moves : List (Int × Date)) : Store :=
  moves.foldl (fun s m => s.updateNextOccurrence m.1 m.2) s

theorem carriedOut_append (s : Store) (made rest : List (Int × Date)) :
    s.carriedOut (made ++ rest) = (s.carriedOut made).carriedOut rest :=
  List.foldl_append

/-- No ids are given out for moves. -/
theorem lastId_carriedOut (s : Store) (moves : List (Int × Date)) :
    (s.carriedOut moves).subscriptions.lastId = s.subscriptions.lastId := by
  induction moves generalizing s with
  | nil => rfl
  | cons m rest ih => exact ih (s.updateNextOccurrence m.1 m.2)

end Store

/-! ### Carrying it out -/

namespace Script

variable {desk : Desk} {s : Store} {user : Int} {today : Date}

/-- A piece that fails fails the whole, and one that succeeds is followed by the next. -/
theorem run_bind (x : Script α) (f : α → Script β) (desk : Desk) (s : Store) :
    (x >>= f).run desk s =
      match x.run desk s with
      | (.ok a, t) => (f a).run desk t
      | (.error failure, t) => (.error failure, t) := by
  change (x.bind f).run desk s = _
  induction x generalizing s with
  | done a => rfl
  | fail failure => rfl
  | ask call next ih =>
    simp only [bind, run]
    cases s.serve desk call with
    | error e => rfl
    | ok served => exact ih served.1 served.2

/-- Makes some moves, one after the other. -/
def carryOut : List (Int × Date) → Script Nat
  | [] => pure 0
  | (id, date) :: rest => do
    call (.updateNextOccurrence id date)
    return (← carryOut rest) + 1

theorem advanceEach_eq (today : Date) (subs : List Subscription) : advanceEach today subs =
    carryOut (subs.filterMap fun sub => (sub.rollover? today).map (sub.id, ·)) := by
  induction subs with
  | nil => rfl
  | cons sub rest ih =>
    unfold advanceEach
    cases moves : sub.rollover? today with
    | none => rw [List.filterMap_cons_none (by rw [moves]; rfl), ih]
    | some d =>
      rw [List.filterMap_cons_some (by rw [moves]; rfl), ih]
      rfl

/-- **Moving subscriptions forward carries out the plan**, once the overdue ones are found. -/
theorem run_advanceUser_eq (desk : Desk) (s : Store) (user : Int) (today : Date) :
    (advanceUser user today).run desk s =
      match s.serve desk (.findOverdue user today) with
      | .ok _ => (carryOut (s.plan user today)).run desk s
      | .error e => (.error (.database e), s) := by
  change (ask (.findOverdue user today) fun overdue => advanceEach today overdue).run desk s = _
  simp only [run]
  cases served : s.serve desk (.findOverdue user today) with
  | error e => rfl
  | ok reply =>
    obtain ⟨subs, s'⟩ := reply
    obtain ⟨found, rfl⟩ := map_store_eq_ok_iff.mp (answer_eq_of_serve_eq_ok served)
    rw [← plan_eq found]
    exact congrArg (run desk s') (advanceEach_eq today subs)

/-- A move that is let through is followed by the others. -/
theorem run_carryOut_cons (desk : Desk) (s : Store) (id : Int) (d : Date) (rest : List (Int × Date)) :
    (carryOut ((id, d) :: rest)).run desk s =
      match desk (.updateNextOccurrence id d) with
      | some reason => (.error (.database (.refused reason)), s)
      | none =>
        (((carryOut rest).run desk (s.updateNextOccurrence id d)).1.map (· + 1),
          ((carryOut rest).run desk (s.updateNextOccurrence id d)).2) := by
  change (ask (.updateNextOccurrence id d) fun _ => (carryOut rest >>= fun n => pure (n + 1))).run
    desk s = _
  simp only [run, serve]
  cases desk (.updateNextOccurrence id d) with
  | some reason => rfl
  | none =>
    simp only [answer, run_bind]
    cases (carryOut rest).run desk (s.updateNextOccurrence id d) with
    | mk result t => cases result <;> rfl

/-- Moves that are let through are followed by the rest of the plan. -/
theorem run_carryOut_append {made : List (Int × Date)}
    (passes : ∀ m ∈ made, desk (.updateNextOccurrence m.1 m.2) = none) (rest : List (Int × Date))
    (s : Store) : (carryOut (made ++ rest)).run desk s =
      (((carryOut rest).run desk (s.carriedOut made)).1.map (· + made.length),
        ((carryOut rest).run desk (s.carriedOut made)).2) := by
  induction made generalizing s with
  | nil =>
    refine Prod.ext ?_ rfl
    change ((carryOut rest).run desk s).1 = ((carryOut rest).run desk s).1.map (· + 0)
    cases ((carryOut rest).run desk s).1 <;> rfl
  | cons m made ih =>
    obtain ⟨first, later⟩ := List.forall_mem_cons.mp passes
    have counted (x : Except Failure Nat) :
        (x.map (· + made.length)).map (· + 1) = x.map (· + (m :: made).length) := by
      cases x <;> rfl
    rw [List.cons_append, run_carryOut_cons, first]
    simp only [ih later]
    exact Prod.ext (counted _) rfl

/-- A plan whose moves are let through is carried out. -/
theorem run_carryOut_of_passes {plan : List (Int × Date)}
    (passes : ∀ m ∈ plan, desk (.updateNextOccurrence m.1 m.2) = none) (s : Store) :
    (carryOut plan).run desk s = (.ok plan.length, s.carriedOut plan) := by
  have ran := run_carryOut_append passes [] s
  rw [List.append_nil] at ran
  rw [ran]
  exact congrArg (fun n => (Except.ok n, s.carriedOut plan)) (Nat.zero_add _)

/-- A plan that is carried out has made all its moves. -/
theorem run_carryOut_eq_ok {plan : List (Int × Date)} {n : Nat}
    (ran : ((carryOut plan).run desk s).1 = .ok n) : n = plan.length := by
  induction plan generalizing s n with
  | nil => exact (Except.ok.inj ran).symm
  | cons m rest ih =>
    rw [run_carryOut_cons] at ran
    split at ran
    · cases ran
    · cases later : ((carryOut rest).run desk (s.updateNextOccurrence m.1 m.2)).1 with
      | error failure =>
        rw [later] at ran
        cases ran
      | ok k =>
        rw [later] at ran
        cases ran
        rw [ih later, List.length_cons]

/-- What is left of a plan after it was carried out, as far as it was let through, ends as before and
makes no move. -/
theorem run_carryOut_again (desk : Desk) {plan : List (Int × Date)}
    (readable : ∃ subs, s.findOverdue user today = .ok subs) (planned : s.plan user today = plan) :
    let after := ((carryOut plan).run desk s).2
    (∃ subs, after.findOverdue user today = .ok subs) ∧
      (carryOut (after.plan user today)).run desk after =
        (((carryOut plan).run desk s).1.map fun _ => 0, after) := by
  induction plan generalizing s with
  | nil =>
    refine ⟨readable, ?_⟩
    change (carryOut (s.plan user today)).run desk s = _
    rw [planned]
    rfl
  | cons m rest ih =>
    obtain ⟨id, d⟩ := m
    obtain ⟨left, readable'⟩ := plan_updateNextOccurrence readable planned
    rw [run_carryOut_cons]
    cases refused : desk (.updateNextOccurrence id d) with
    | some reason =>
      refine ⟨readable, ?_⟩
      simp only
      rw [planned, run_carryOut_cons, refused]
      rfl
    | none =>
      obtain ⟨found, again⟩ := ih readable' left
      refine ⟨found, again.trans ?_⟩
      cases ((carryOut rest).run desk (s.updateNextOccurrence id d)).1 <;> rfl

/-- **Moving subscriptions forward a second time** ends as the first time did, moves none and leaves
the store as it is, whichever calls are refused. -/
theorem run_advanceUser_again (desk : Desk) (s : Store) (user : Int) (today : Date) :
    (advanceUser user today).run desk ((advanceUser user today).run desk s).2 =
      (((advanceUser user today).run desk s).1.map fun _ => 0,
        ((advanceUser user today).run desk s).2) := by
  rw [run_advanceUser_eq desk s]
  cases served : s.serve desk (.findOverdue user today) with
  | error e =>
    simp only
    rw [run_advanceUser_eq, served]
    rfl
  | ok reply =>
    obtain ⟨passes, answered⟩ := serve_eq_ok_iff.mp served
    have readable : ∃ subs, s.findOverdue user today = .ok subs :=
      ⟨_, (map_store_eq_ok_iff.mp answered).1⟩
    obtain ⟨⟨subs, found⟩, again⟩ := run_carryOut_again desk readable rfl
    simp only at found again ⊢
    rw [run_advanceUser_eq, serve, passes]
    simp only [answer, found]
    exact again

end Script

end Reminders
