import Reminders.Proofs.Scheduler.Calm
import Reminders.Proofs.Scheduler.Failure
import Reminders.Proofs.Scheduler.UpToDate

/-!
What a tick counts as moved.

A run counts the subscriptions that it moves, and the count is part of its report. A run that fails
has no report, but what it has moved by then stays moved. So a tick counts the dates that have
changed for the users whose runs succeeded, and those that the failed runs have changed are missing.

* `Store.changedDatesOf`: the subscriptions of one user whose date is another one.
* `Engine.TicksTo.exists_made`: which moves the run of a user has made, and how many it counts.
* `Engine.TicksTo.advanced_eq`: the count of a tick.
* `Engine.tick_counts_reported_moves`, with `Engine.moves_of_failed_run_are_missing`
-/

namespace Reminders

open Store

namespace Store

variable {s t t' : Store} {user id : Int} {today : Date} {made : List (Int × Date)}

/-! ### The dates of a user -/

/-- The subscriptions of a user whose date is another one in the second store. -/
def changedDatesOf (s t : Store) (user : Int) : Set Int := {id ∈ s.changedDates t | s.Owns user id}

theorem finite_changedDatesOf (s t : Store) (user : Int) : (s.changedDatesOf t user).Finite :=
  (s.finite_changedDates t).subset (Set.sep_subset _ _)

/-- What has changed for a user can be seen in the user's part of the store. -/
theorem changedDatesOf_subset (owners : t.owners = s.owners)
    (same : t'.ofUser user = t.ofUser user) :
    s.changedDatesOf t user ⊆ s.changedDatesOf t' user := by
  rintro id ⟨⟨r, mem, r', mem', rfl, same', changed⟩, owns⟩
  have owns' : t.Owns user r'.id := by
    rw [same', Owns, owners]
    exact owns
  obtain ⟨r'', mine, same''⟩ := owns_iff_exists.mp owns'
  cases Table.eq_of_id_eq (mem_ofUser_iff.mp mine).1 mem' same''
  rw [← same] at mine
  exact ⟨⟨r, mem, r', (mem_ofUser_iff.mp mine).1, rfl, same', changed⟩, owns⟩

theorem changedDatesOf_congr (owners : t.owners = s.owners) (owners' : t'.owners = s.owners)
    (same : t'.ofUser user = t.ofUser user) : s.changedDatesOf t user = s.changedDatesOf t' user :=
  Set.Subset.antisymm (changedDatesOf_subset owners same) (changedDatesOf_subset owners' same.symm)

/-- The moves of a user's plan change dates of that user only. -/
theorem changedDatesOf_carriedOut (planned : made.Sublist (s.plan user today)) :
    s.changedDatesOf (s.carriedOut made) user = s.changedDates (s.carriedOut made) := by
  refine Set.Subset.antisymm (Set.sep_subset _ _) fun id changed => ⟨changed, ?_⟩
  rw [changedDates_carriedOut fun m mem => planned.subset mem] at changed
  obtain ⟨m, mem, rfl⟩ := List.mem_map.mp changed
  obtain ⟨r, known, overdue, -, d, -, -, rfl⟩ := mem_plan_iff.mp (planned.subset mem)
  exact owns_iff.mpr ⟨r, known, rfl, overdue.1⟩

/-! ### The dates that a tick changes -/

/-- Subscriptions stay with their users. -/
theorem Grown.owners (grown : s.Grown t) : t.owners = s.owners := by
  have alike : List.Forall₂ (fun r r' : Row SubscriptionColumn =>
      (r'.id, r'.cell .userId) = (r.id, r.cell .userId)) s.subscriptions.rows
        t.subscriptions.rows :=
    grown.rows.imp fun r r' reached => by rw [reached.id_eq, reached.owner.1]
  rw [Store.owners, Store.owners]
  generalize s.subscriptions.rows = rows, t.subscriptions.rows = rows' at alike
  induction alike with
  | nil => rfl
  | cons same _ ih => rw [List.map_cons, List.map_cons, same, ih]

/-- A row is reached from the one of the same id. -/
theorem Grown.reached {r r' : Row SubscriptionColumn} (grown : s.Grown t)
    (mem : r ∈ s.subscriptions.rows) (mem' : r' ∈ t.subscriptions.rows) (same : r'.id = r.id) :
    Row.Reached r r' := by
  obtain ⟨length, all⟩ := List.forall₂_iff_get.mp grown.rows
  obtain ⟨i, lt, rfl⟩ := List.mem_iff_getElem.mp mem
  have reached := all i lt (length ▸ lt)
  cases Table.eq_of_id_eq mem' (List.get_mem _ _) (same.trans reached.id_eq.symm)
  exact reached

/-- Only dates of users change. -/
theorem Grown.exists_owner (grown : s.Grown t) (changed : id ∈ s.changedDates t) :
    ∃ user, s.Owns user id := by
  obtain ⟨r, mem, r', mem', rfl, same, changed⟩ := changed
  rcases (grown.reached mem mem' same).owner.2 with rfl | ⟨user, owner⟩
  · exact absurd rfl changed
  · exact ⟨user, owns_iff.mpr ⟨r, mem, rfl, owner⟩⟩

/-- The subscriptions of some users whose date is another one in the second store. -/
def changedDatesAmong (s t : Store) (users : List Int) : Set Int :=
  {id ∈ s.changedDates t | ∃ user ∈ users, s.Owns user id}

theorem finite_changedDatesAmong (s t : Store) (users : List Int) :
    (s.changedDatesAmong t users).Finite :=
  (s.finite_changedDates t).subset (Set.sep_subset _ _)

theorem changedDatesAmong_nil (s t : Store) : s.changedDatesAmong t [] = ∅ :=
  Set.eq_empty_iff_forall_notMem.mpr fun _ mem => List.not_mem_nil mem.2.choose_spec.1

theorem changedDatesAmong_cons (s t : Store) (user : Int) (users : List Int) :
    s.changedDatesAmong t (user :: users) =
      s.changedDatesOf t user ∪ s.changedDatesAmong t users := by
  ext id
  simp only [changedDatesAmong, changedDatesOf, Set.mem_union, Set.mem_ofPred_eq,
    List.exists_mem_cons_iff, and_or_left]

/-- **Changed dates are counted user by user.** -/
theorem ncard_changedDatesAmong {users : List Int} (distinct : users.Nodup) :
    (s.changedDatesAmong t users).ncard =
      (users.map fun user => (s.changedDatesOf t user).ncard).sum := by
  induction users with
  | nil =>
    rw [changedDatesAmong_nil, Set.ncard_empty]
    rfl
  | cons user users ih =>
    obtain ⟨alone, distinct⟩ := List.nodup_cons.mp distinct
    have apart : Disjoint (s.changedDatesOf t user) (s.changedDatesAmong t users) := by
      refine Set.disjoint_left.mpr ?_
      rintro id ⟨-, mine⟩ ⟨-, other, known, theirs⟩
      exact alone (mine.eq theirs ▸ known)
    rw [changedDatesAmong_cons, Set.ncard_union_eq apart (s.finite_changedDatesOf t user)
      (s.finite_changedDatesAmong t users), ih distinct, List.map_cons, List.sum_cons]

end Store

/-! ### What runs count -/

/-- **A preparation carries out the plan** of its user, and counts its moves. -/
theorem Script.run_prepare_carriedOut {defaultTemplate : String} {user : Int} {today : Date}
    {s t : Store} {p : Preparation}
    (prepared : (prepare defaultTemplate user today).run .open s = (.ok p, t)) :
    t = s.carriedOut (s.plan user today) ∧ p.advanced = (s.plan user today).length := by
  rw [run_prepare_open] at prepared
  cases found : s.findOverdue user today with
  | error failure =>
    rw [found] at prepared
    cases (Prod.mk.inj prepared).1
  | ok subs =>
    rw [found] at prepared
    simp only [run_advanceUser_carriedOut found] at prepared
    obtain ⟨ready, moved⟩ := Prod.mk.inj prepared
    obtain ⟨q, -, rfl⟩ := except_map_eq_ok_iff.mp ready
    exact ⟨moved.symm, rfl⟩

namespace Round

variable {e : Engine} {today : Date} {s : Store} {order : List Int} {r : Round} {w : World}

/-- The users whose runs have ended with a report. -/
def reportedUsers (r : Round) : List Int := (r.finished.filter (·.2.isOk)).map Prod.fst

/-- The users whose runs have failed. -/
def failedUsers (r : Round) : List Int := (r.finished.filter (!·.2.isOk)).map Prod.fst

/-- Every run that has ended has a report or has failed. -/
theorem perm_finished (r : Round) :
    (r.reportedUsers ++ r.failedUsers).Perm (r.finished.map Prod.fst) := by
  rw [reportedUsers, failedUsers, ← List.map_append]
  exact (List.filter_append_perm _ _).map _

/-- When no run is counted as failed, none has. -/
theorem failedUsers_eq_nil (progress : Progress order r) (none : r.report.usersFailed = 0) :
    r.failedUsers = [] := by
  rw [failedUsers, List.map_eq_nil_iff, List.filter_eq_nil_iff]
  intro x mem failed
  obtain ⟨report, -, ok⟩ := exists_report progress none mem
  rw [ok] at failed
  cases failed

/-- **A tick counts what the runs with a report have counted.** -/
theorem advanced_succeeded {finished : List (Int × Except Failure UserReport)} {count : Int → Nat}
    (counts : ∀ user report, (user, .ok report) ∈ finished → report.advanced = count user) :
    (succeeded finished).sum.advanced =
      (((finished.filter (·.2.isOk)).map Prod.fst).map count).sum := by
  induction finished with
  | nil => rfl
  | cons x finished ih =>
    have later := ih fun user report mem => counts user report (List.mem_cons_of_mem _ mem)
    obtain ⟨user, result⟩ := x
    cases result with
    | error failure => exact later
    | ok report =>
      have first := counts user report List.mem_cons_self
      exact congrArg₂ (· + ·) first later

/-- The changed dates are those of the users that the tick has run. -/
theorem Beside.changedDates_eq {I : Int → UserTask → World → Prop}
    (beside : Beside I e today s order r w) :
    s.changedDates w.store = s.changedDatesAmong w.store order := by
  refine Set.Subset.antisymm (fun id changed => ⟨changed, ?_⟩) (Set.sep_subset _ _)
  obtain ⟨user, owns⟩ := beside.worked.grown.exists_owner changed
  refine ⟨user, ?_, owns⟩
  by_contra absent
  -- Of a user that is not listed nothing has changed.
  have same := (beside.others user absent).store.subscriptions
  have mine : id ∈ s.changedDatesOf w.store user := ⟨changed, owns⟩
  rw [changedDatesOf_congr beside.worked.grown.owners rfl same.symm] at mine
  rw [changedDatesOf, changedDates_self] at mine
  exact mine.1

end Round

namespace Engine

variable {e : Engine} {allowed : Turn → Prop} {user : Int} {today : Date} {s : Store} {r : Round}
  {w : World}

/-- **What a run has moved** when it has ended: the first moves of its plan, and all of them when it
has a report, which counts them. -/
theorem TicksTo.exists_made {result : Except Failure UserReport}
    (ticks : e.TicksTo allowed today s r w)
    (held : (user, .finished result) ∈ r.tasks e today) :
    ∃ made, made <+: s.plan user today ∧ w.store.ofUser user = (s.carriedOut made).ofUser user ∧
      ∀ report, result = .ok report →
        made = s.plan user today ∧ report.advanced = made.length := by
  cases result with
  | error failure =>
    obtain ⟨made, t, leaves, idle⟩ := ticks.leavesOff held
    refine ⟨made, leaves.planned, ?_, nofun⟩
    rw [idle.1.subscriptions, leaves.carried]
  | ok report =>
    obtain ⟨order, -, stems, -⟩ := ticks.stems
    obtain ⟨q, crew, rfl, -, ready, subscriptions, -⟩ := stems.holds _ held
    obtain ⟨moved, counted⟩ := Script.run_prepare_carriedOut (Prod.ext ready rfl)
    refine ⟨s.plan user today, List.prefix_rfl, ?_, ?_⟩
    · rw [← moved]
      exact subscriptions
    · rintro _ ⟨⟩
      exact ⟨rfl, counted⟩

/-- What a run that has ended has changed of its user's dates: those of the moves that it made. -/
theorem TicksTo.changedDatesOf_eq {made : List (Int × Date)} (ticks : e.TicksTo allowed today s r w)
    (planned : made <+: s.plan user today)
    (same : w.store.ofUser user = (s.carriedOut made).ofUser user) :
    s.changedDatesOf w.store user = s.changedDates (s.carriedOut made) := by
  obtain ⟨order, -, stems, -⟩ := ticks.stems
  rw [changedDatesOf_congr stems.worked.grown.owners (s.sameButDates_carriedOut made).owners
    same.symm, changedDatesOf_carriedOut planned.sublist]

/-- **How a tick counts**: what the runs with a report have changed is counted, and what the failed
runs have changed is not. -/
theorem TicksTo.advanced_eq (ticks : e.TicksTo allowed today s r w) (ended : r.IsOver) :
    r.report.totals.advanced = (s.changedDatesAmong w.store r.reportedUsers).ncard ∧
      (s.changedDates w.store).ncard = r.report.totals.advanced +
        (s.changedDatesAmong w.store r.failedUsers).ncard := by
  obtain ⟨order, -, stems, progress⟩ := ticks.stems
  have users : (r.reportedUsers ++ r.failedUsers).Perm order := by
    have conserved := progress.conserved
    rw [Round.held_eq_nil ended.2, ended.1, List.append_nil, List.append_nil] at conserved
    exact r.perm_finished.trans conserved
  have distinct : order.Nodup := stems.users.nodup_iff.mp stems.distinct
  obtain ⟨reported, failed, -⟩ := List.nodup_append.mp (users.nodup_iff.mpr distinct)
  have advanced : r.report.totals.advanced =
      (s.changedDatesAmong w.store r.reportedUsers).ncard := by
    rw [Round.report_eq, progress.totals, ncard_changedDatesAmong reported]
    refine Round.advanced_succeeded fun user report mem => ?_
    have held : (user, .finished (.ok report)) ∈ r.tasks e today := by
      rw [Round.tasks_eq_finished ended]
      exact List.mem_map.mpr ⟨_, mem, rfl⟩
    obtain ⟨made, planned, same, counts⟩ := ticks.exists_made held
    rw [(counts report rfl).2, ticks.changedDatesOf_eq planned same,
      ncard_changedDates_carriedOut planned.sublist]
  refine ⟨advanced, ?_⟩
  rw [advanced, stems.changedDates_eq, ncard_changedDatesAmong distinct,
    ncard_changedDatesAmong reported, ncard_changedDatesAmong failed, ← List.sum_append,
    ← List.map_append, (users.map _).sum_eq]

/-- What is missing of a failed run: the dates of the first moves of its plan. -/
theorem TicksTo.exists_missing (ticks : e.TicksTo allowed today s r w) (ended : r.IsOver)
    (failed : user ∈ r.failedUsers) : ∃ made, made <+: s.plan user today ∧
      s.changedDatesOf w.store user = {id | id ∈ made.map Prod.fst} := by
  obtain ⟨⟨user, result⟩, known, rfl⟩ := List.mem_map.mp failed
  have held : (user, .finished result) ∈ r.tasks e today := by
    rw [Round.tasks_eq_finished ended]
    exact List.mem_map.mpr ⟨_, (List.mem_filter.mp known).1, rfl⟩
  obtain ⟨made, planned, same, -⟩ := ticks.exists_made held
  refine ⟨made, planned, ?_⟩
  rw [ticks.changedDatesOf_eq planned same, changedDates_carriedOut fun m mem => planned.subset mem]

/-- **What a tick counts as moved.** Whatever the sender answers, whichever calls the store refuses
and whoever takes the turns, a tick that is over has counted the dates of the users whose runs have a
report, as far as they are other ones now. The dates that the failed runs have changed are missing:
for each user whose run has failed, those of the first moves of the plan. So the tick has counted all
dates that it has changed exactly when the failed runs have changed none, as when none has failed. -/
theorem tick_counts_reported_moves (e : Engine) (allowed : Turn → Prop) (today : Date) (s : Store) :
    (∀ r w, e.TicksTo allowed today s r w → r.IsOver →
      r.report.totals.advanced = (s.changedDatesAmong w.store r.reportedUsers).ncard ∧
      (s.changedDates w.store).ncard = r.report.totals.advanced +
        (s.changedDatesAmong w.store r.failedUsers).ncard ∧
      (r.report.totals.advanced = (s.changedDates w.store).ncard ↔
        s.changedDatesAmong w.store r.failedUsers = ∅) ∧
      ∀ user ∈ r.failedUsers, ∃ made, made <+: s.plan user today ∧
        s.changedDatesOf w.store user = {id | id ∈ made.map Prod.fst}) ∧
    ∀ desk report w, e.Ends desk allowed today s report w → report.usersFailed = 0 →
      report.totals.advanced = (s.changedDates w.store).ncard := by
  constructor
  · intro r w ticks ended
    obtain ⟨advanced, all⟩ := ticks.advanced_eq ended
    refine ⟨advanced, all, ?_, fun user => ticks.exists_missing ended⟩
    rw [← Set.ncard_eq_zero (s.finite_changedDatesAmong w.store _)]
    omega
  · intro desk report w ticked none
    cases ticked with
    | refused =>
      rw [changedDates_self, Set.ncard_empty]
      rfl
    | drained _ ticks ended =>
      obtain ⟨order, -, -, progress⟩ := ticks.stems
      rw [(ticks.advanced_eq ended).2, Round.failedUsers_eq_nil progress none,
        changedDatesAmong_nil, Set.ncard_empty, Nat.add_zero]

end Engine

namespace Sample

/-- What makes a store with two users, each with a weekly subscription that is over. -/
def neighbourhood : List Operation :=
  [.createUser "ada@example.org", .createUser "bob@example.org", .insertSubscription weekly,
    .insertSubscription { weekly with userId := 2 }, .insertChannel 1 .ntfy .null none,
    .insertChannel 2 .ntfy .null none, .upsertPolicy ⟨2, 3, true⟩]

/-- The store with the two users. -/
def neighbours : Store :=
  neighbourhood.foldl (fun s operation => operation.perform .open s) .empty

/-- The store after a number of days that is out of range was put into the policy of the second
user. -/
def misplanned : Store :=
  match neighbours.overwrite 2 (.integer (-1)) (.policy .daysBefore) with
  | .ok written => written.2
  | .error _ => neighbours

/-- A tick for the two users. -/
abbrev tickOn (s : Store) : TickOutcome := engine.tick sender .open noon s today

end Sample

namespace Engine

/-- **Moves of a failed run are missing**: of two users with a subscription that is over, the run of
the second one fails when it reads the policy, and the tick counts one of two moves. -/
theorem moves_of_failed_run_are_missing :
    (Sample.tickOn Sample.misplanned).report = ⟨2, 1, ⟨1, 1, 0, 0, ⟨1, 0, 0⟩⟩⟩ ∧
      1 < (Sample.misplanned.changedDates (Sample.tickOn Sample.misplanned).store).ncard := by
  refine ⟨by decide +kernel, ?_⟩
  have dates : ∀ id ∈ [1, 2],
      (∃ r ∈ Sample.misplanned.subscriptions.rows,
        r.id = id ∧ (r.cell .nextOccurrence).IsText "2026-02-01") ∧
      ∃ r ∈ (Sample.tickOn Sample.misplanned).store.subscriptions.rows,
        r.id = id ∧ (r.cell .nextOccurrence).IsText "2026-03-01" := by decide +kernel
  have changed {id : Int} (mem : id ∈ [1, 2]) :=
    mem_changedDates_of_isText (dates id mem).1 (dates id mem).2 (by decide)
  rw [Set.one_lt_ncard_iff (finite_changedDates _ _)]
  exact ⟨1, 2, changed (by decide), changed (by decide), by decide⟩

/-- When the second run fails the tick counts the move of the first one, and when none fails it
counts both. -/
theorem tick_counts_reported_moves_sample :
    (∃ (r : Round) (w : World), Sample.engine.TicksTo (fun t => t.desk = .open) Sample.today
        Sample.misplanned r w ∧ r.IsOver ∧ r.report.usersFailed = 1 ∧
      (Sample.misplanned.changedDatesAmong w.store r.reportedUsers).ncard = 1 ∧
      (Sample.misplanned.changedDates w.store).ncard =
        1 + (Sample.misplanned.changedDatesAmong w.store r.failedUsers).ncard) ∧
    (Sample.neighbours.changedDates (Sample.tickOn Sample.neighbours).store).ncard = 2 := by
  constructor
  · have report : (Sample.tickOn Sample.misplanned).report = ⟨2, 1, ⟨1, 1, 0, 0, ⟨1, 0, 0⟩⟩⟩ := by
      decide +kernel
    obtain ⟨events, ticked, -⟩ := Sample.engine.ticks_tick Sample.sender .open Sample.noon
      Sample.today Sample.misplanned
    replace ticked := ticked.mono fun _ (turn : Turn.With _ Desk.open _) => turn.2
    rw [report] at ticked
    generalize counted : (⟨2, 1, ⟨1, 1, 0, 0, ⟨1, 0, 0⟩⟩⟩ : TickReport) = total,
      (⟨(Sample.tickOn Sample.misplanned).store, events⟩ : World) = w at ticked
    cases ticked with
    | refused => cases counted
    | drained _ ticks ended =>
      obtain ⟨advanced, all, -⟩ := (tick_counts_reported_moves _ _ _ _).1 _ _ ticks ended
      rw [← counted] at advanced all
      exact ⟨_, _, ticks, ended, by rw [← counted], advanced.symm, all⟩
  · have report : (Sample.tickOn Sample.neighbours).report = ⟨2, 0, ⟨2, 2, 0, 0, ⟨2, 0, 0⟩⟩⟩ := by
      decide +kernel
    obtain ⟨events, ticked, -⟩ := Sample.engine.ticks_tick Sample.sender .open Sample.noon
      Sample.today Sample.neighbours
    rw [report] at ticked
    generalize (Sample.tickOn Sample.neighbours).store = after at ticked ⊢
    exact ((tick_counts_reported_moves _ _ _ _).2 _ _ _ ticked rfl).symm

end Engine

end Reminders
