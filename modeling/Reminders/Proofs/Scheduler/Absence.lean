import Reminders.Proofs.Scheduler.Again
import Reminders.Proofs.Store.Tidy

/-!
Without one subscription.

What a run finds on a store is what it finds without one of the subscriptions, and besides what is
about that subscription. Only when that one cannot be read and a query of the run meets it, the run
ends there.

* `Script.run_prepare_open`: a preparation that nobody disturbs, read off the store.
* `Store.Lacks.found`, `Store.Lacks.advanced`: what is found without the subscription, and what is left
  of the store.
* `Script.run_prepare_of_not_blocks`, `Script.run_prepare_of_blocks`: the preparation as a whole.
-/

namespace Reminders

open Store

/-! ### Preparing in one go -/

namespace Script

variable {s : Store} {user : Int} {today : Date}

/-- Moves that nobody refuses are all made. -/
theorem run_carryOut_open (plan : List (Int × Date)) (s : Store) :
    (carryOut plan).run .open s = (.ok plan.length, s.carriedOut plan) :=
  run_carryOut_of_passes (fun _ _ => rfl) s

/-- When no call is refused the whole plan is carried out. -/
theorem run_advanceUser_carriedOut {subs : List Subscription}
    (found : s.findOverdue user today = .ok subs) : (advanceUser user today).run .open s =
      (.ok (s.plan user today).length, s.carriedOut (s.plan user today)) := by
  rw [run_advanceUser_eq]
  simp only [serve_open, answer, found]
  exact run_carryOut_open _ s

theorem run_advanceUser_open {subs : List Subscription}
    (found : s.findOverdue user today = .ok subs) : (advanceUser user today).run .open s =
      (.ok (s.plan user today).length, ((advanceUser user today).run .open s).2) := by
  rw [run_advanceUser_carriedOut found]

theorem run_advanceUser_of_error {e : StoreError} (failed : s.findOverdue user today = .error e) :
    (advanceUser user today).run .open s = (.error (.database e), s) := by
  rw [run_advanceUser_eq]
  simp only [serve_open, answer, failed]
  rfl

/-- **A preparation is read off the store**, when no call is refused. -/
theorem run_prepare_open (defaultTemplate : String) (user : Int) (today : Date) (s : Store) :
    (prepare defaultTemplate user today).run .open s =
      match s.findOverdue user today with
      | .error e => (.error (.database e), s)
      | .ok _ =>
        ((((((advanceUser user today).run .open s).2.found defaultTemplate user today).mapError
          Failure.database).map ({ · with advanced := (s.plan user today).length })),
            ((advanceUser user today).run .open s).2) := by
  rw [prepare, run_bind]
  cases found : s.findOverdue user today with
  | error e =>
    rw [run_advanceUser_of_error found]
  | ok subs =>
    rw [run_advanceUser_open found]
    simp only [run_findings _ _ _ (s.plan user today).length, run_findings_open]

end Script

/-! ### Queries without one subscription -/

namespace Row

/-- The query for subscriptions to remind of finds the row. -/
def IsNotifiable (user : Int) (r : Row SubscriptionColumn) : Prop :=
  (r.cell .userId).IsInt user ∧ (r.cell .enabled).IsInt 1 ∧ StoredRecurring r ∧
    ¬(r.cell .nextOccurrence).IsNull

instance (user : Int) (r : Row SubscriptionColumn) : Decidable (r.IsNotifiable user) :=
  inferInstanceAs (Decidable (_ ∧ _ ∧ _ ∧ ¬_))

end Row

namespace Store

variable {s t a : Store} {user id : Int} {today : Date} {rows : List (Row SubscriptionColumn)}
  {defaultTemplate : String}

/-- Reading succeeds when each row can be read. -/
theorem exists_readSubscriptions_iff_legible :
    (∃ subs, readSubscriptions rows = .ok subs) ↔ ∀ r ∈ rows, r.Legible := by
  simp only [exists_readSubscriptions_iff, Subscription.exists_ofRow_iff]

/-- Without one row, the subscriptions of the others are read. -/
theorem readSubscriptions_without {subs : List Subscription}
    (found : readSubscriptions rows = .ok subs) (id : Int) :
    readSubscriptions (rows.filter (·.id ≠ id)) = .ok (subs.filter (·.id ≠ id)) := by
  have all := exists_readSubscriptions_iff_legible.mp ⟨subs, found⟩
  obtain ⟨others, found'⟩ := exists_readSubscriptions_iff_legible.mpr fun r mem =>
    all r (List.mem_filter.mp mem).1
  rw [found', readSubscriptions_eq found', readSubscriptions_eq found]
  refine congrArg Except.ok (filterMap_filter_eq (fun r sub read => ?_) rows)
  rw [(Subscription.ofRow_eq_ok_ok (toOption_bind_toOption_eq_some.mp read)).1]

theorem findNotifiable_eq (s : Store) (user : Int) : s.findNotifiable user =
    readSubscriptions (s.subscriptions.rows.filter fun r => decide (r.IsNotifiable user)) := by
  rw [findNotifiable, ofUser, List.filter_filter]
  refine congrArg readSubscriptions (List.filter_congr fun r _ => ?_)
  rw [← Bool.decide_and, ← decide_not, ← Bool.decide_and, ← Bool.decide_and]
  apply decide_eq_decide.mpr
  rw [Row.IsNotifiable, and_comm, and_assoc]

/-- One store is another one without the subscription with an id. -/
structure Lacks (id : Int) (t a : Store) : Prop where
  users : a.users = t.users
  policies : a.policies = t.policies
  channels : a.channels = t.channels
  logs : a.logs = t.logs
  rows : a.subscriptions.rows = t.subscriptions.rows.filter (·.id ≠ id)

theorem lacks_withoutSubscription (t : Store) (id : Int) : Lacks id t (t.withoutSubscription id) := by
  refine ⟨rfl, rfl, rfl, rfl, ?_⟩
  rw [rows_withoutSubscription]
  exact List.filter_congr fun r _ => (decide_not ..).symm

namespace Lacks

theorem findOverdue {subs : List Subscription} (lacks : Lacks id t a)
    (found : t.findOverdue user today = .ok subs) :
    a.findOverdue user today = .ok (subs.filter (·.id ≠ id)) := by
  rw [findOverdue_eq] at found ⊢
  rw [lacks.rows, List.filter_comm]
  exact readSubscriptions_without found id

theorem findNotifiable {subs : List Subscription} (lacks : Lacks id t a)
    (found : t.findNotifiable user = .ok subs) :
    a.findNotifiable user = .ok (subs.filter (·.id ≠ id)) := by
  rw [findNotifiable_eq] at found ⊢
  rw [lacks.rows, List.filter_comm]
  exact readSubscriptions_without found id

/-- A query that succeeds without the subscription succeeds with it unless it meets a row of it that
cannot be read. -/
theorem exists_query_iff {P : Row SubscriptionColumn → Prop} [DecidablePred P]
    (lacks : Lacks id t a)
    (others : ∃ subs, readSubscriptions (a.subscriptions.rows.filter fun r => decide (P r)) = .ok subs) :
    (∃ subs, readSubscriptions (t.subscriptions.rows.filter fun r => decide (P r)) = .ok subs) ↔
      ∀ r ∈ t.subscriptions.rows, r.id = id → P r → r.Legible := by
  rw [exists_readSubscriptions_iff_legible] at others ⊢
  constructor
  · intro all r mem _ selected
    exact all r (List.mem_filter.mpr ⟨mem, decide_eq_true selected⟩)
  · intro own r mem
    obtain ⟨mem, selected⟩ := List.mem_filter.mp mem
    by_cases same : r.id = id
    · exact own r mem same (of_decide_eq_true selected)
    · refine others r (List.mem_filter.mpr ⟨?_, selected⟩)
      rw [lacks.rows]
      exact List.mem_filter.mpr ⟨mem, decide_eq_true same⟩

/-- The subscriptions of a user without that one. -/
theorem ofUser (lacks : Lacks id t a) (user : Int) :
    a.ofUser user = (t.ofUser user).filter (·.id ≠ id) := by
  rw [Store.ofUser, Store.ofUser, lacks.rows, List.filter_comm]

theorem wasSent_iff (lacks : Lacks id t a) {key : ReminderKey} : a.WasSent key ↔ t.WasSent key := by
  rw [WasSent, WasSent, lacks.logs]

/-- Moving subscriptions forward leaves the same rows of the others. -/
theorem advanced {subs : List Subscription} (lacks : Lacks id t a)
    (found : t.findOverdue user today = .ok subs) :
    Lacks id ((Script.advanceUser user today).run .open t).2
      ((Script.advanceUser user today).run .open a).2 := by
  have same := Script.run_advanceUser user today .open t
  have same' := Script.run_advanceUser user today .open a
  refine ⟨same'.users.trans (lacks.users.trans same.users.symm),
    same'.policies.trans (lacks.policies.trans same.policies.symm),
    same'.channels.trans (lacks.channels.trans same.channels.symm),
    same'.logs.trans (lacks.logs.trans same.logs.symm), ?_⟩
  rw [Script.rows_advanceUser found, Script.rows_advanceUser (lacks.findOverdue found), lacks.rows,
    List.filter_map]
  refine congrArg (List.map _) (List.filter_congr fun r _ => ?_)
  rw [Function.comp_apply, Row.broughtUpTo_id]

theorem judge_eq (lacks : Lacks id t a) (email : String) (r : DueReminder) (channel : Channel) :
    a.judge defaultTemplate user email r channel = t.judge defaultTemplate user email r channel := by
  unfold judge
  simp only [lacks.wasSent_iff]

theorem findChannels (lacks : Lacks id t a) (user : Int) :
    a.findChannels user = t.findChannels user := by
  rw [Store.findChannels, Store.findChannels, enabledChannels, enabledChannels, lacks.channels]

theorem findPolicy (lacks : Lacks id t a) (user : Int) : a.findPolicy user = t.findPolicy user := by
  rw [Store.findPolicy, Store.findPolicy, lacks.policies]

theorem userEmail? (lacks : Lacks id t a) (user : Int) : a.userEmail? user = t.userEmail? user := by
  rw [Store.userEmail?, Store.userEmail?, lacks.users]

/-- The jobs for the due reminders of the other subscriptions. -/
theorem jobs_prepared (lacks : Lacks id t a) (email : String) (channels : List Channel)
    (due : List DueReminder) :
    (a.prepared defaultTemplate user email channels
      (due.filter (·.subscription.id ≠ id))).jobs =
        (t.prepared defaultTemplate user email channels due).jobs.filter (·.subscriptionId ≠ id) := by
  simp only [Preparation.jobs, prepared, List.filterMap_map, lacks.judge_eq]
  rw [flatMap_filter_eq (Q := fun pair : DueReminder × Channel =>
      decide (pair.1.subscription.id ≠ id)),
    filterMap_filter_eq (Q := fun job : Job => decide (job.subscriptionId ≠ id))]
  · intro pair job ready
    simp only [Function.comp_apply] at ready
    split at ready
    · rename_i judged
      cases ready
      obtain ⟨-, message, -, rfl⟩ := judge_eq_ready_iff.mp judged
      rfl
    · cases ready
  · intro r pair mem
    obtain ⟨c, -, rfl⟩ := List.mem_map.mp mem
    rfl

/-- **What is found without the subscription** is what is found with it, less the jobs that are about
it. -/
theorem found {p : Preparation} (lacks : Lacks id t a)
    (finds : t.found defaultTemplate user today = .ok p) :
    ∃ q, a.found defaultTemplate user today = .ok q ∧
      q.jobs = p.jobs.filter (·.subscriptionId ≠ id) := by
  obtain ⟨channels, foundChannels, finds⟩ := found_eq_ok_iff.mp finds
  have foundChannels' := (lacks.findChannels user).trans foundChannels
  rcases finds with ⟨none, rfl⟩ | ⟨some, subs, policy, address, foundSubs, foundPolicy, foundAddress,
    rfl⟩
  · exact ⟨_, found_eq_ok_iff.mpr ⟨channels, foundChannels', .inl ⟨none, rfl⟩⟩, rfl⟩
  · refine ⟨_, found_eq_ok_iff.mpr ⟨channels, foundChannels', .inr ⟨some, _, policy, address,
      lacks.findNotifiable foundSubs, (lacks.findPolicy user).trans foundPolicy,
        (lacks.userEmail? user).trans foundAddress, rfl⟩⟩, ?_⟩
    rw [← lacks.jobs_prepared, filterMap_filter_eq]
    intro sub r due
    obtain ⟨date, -, -, rfl⟩ := Subscription.dueReminder?_eq_some_iff.mp due
    rfl

/-- What is found without the subscription is found with it unless there is a channel and the row of
the subscription, which the query meets, cannot be read. -/
theorem exists_found_iff (lacks : Lacks id t a)
    (others : ∃ q, a.found defaultTemplate user today = .ok q) :
    (∃ p, t.found defaultTemplate user today = .ok p) ↔ ∀ r ∈ t.subscriptions.rows, r.id = id →
      r.IsNotifiable user ∧ (∃ c, t.HasChannel user c) → r.Legible := by
  obtain ⟨q, finds⟩ := others
  obtain ⟨channels, foundChannels, finds⟩ := found_eq_ok_iff.mp finds
  rw [lacks.findChannels] at foundChannels
  rcases finds with ⟨rfl, rfl⟩ | ⟨some, subs, policy, address, foundSubs, foundPolicy, foundAddress,
    rfl⟩
  · refine iff_of_true ⟨_, found_eq_ok_iff.mpr ⟨[], foundChannels, .inl ⟨rfl, rfl⟩⟩⟩ ?_
    rintro r - - ⟨-, c, known⟩
    exact absurd ((mem_findChannels_iff foundChannels).mpr known) List.not_mem_nil
  · obtain ⟨c, mem⟩ := List.exists_mem_of_ne_nil channels some
    have known : ∃ c, t.HasChannel user c := ⟨c, (mem_findChannels_iff foundChannels).mp mem⟩
    rw [findNotifiable_eq] at foundSubs
    have query := lacks.exists_query_iff ⟨subs, foundSubs⟩
    rw [← findNotifiable_eq] at query
    simp only [known, and_true, ← query]
    constructor
    · rintro ⟨p, finds⟩
      obtain ⟨channels', foundChannels', finds⟩ := found_eq_ok_iff.mp finds
      cases foundChannels.symm.trans foundChannels'
      rcases finds with ⟨none, -⟩ | ⟨-, subs, -, -, foundSubs, -⟩
      · exact absurd none some
      · exact ⟨subs, foundSubs⟩
    · rintro ⟨subs', foundSubs'⟩
      exact ⟨_, found_eq_ok_iff.mpr ⟨channels, foundChannels, .inr ⟨some, subs', policy, address,
        foundSubs', (lacks.findPolicy user).symm.trans foundPolicy,
          (lacks.userEmail? user).symm.trans foundAddress, rfl⟩⟩⟩

end Lacks

/-! ### Preparing without one subscription -/

/-- The subscription with this id cannot be read, and a query of the user's run meets it. -/
def Blocks (t : Store) (id user : Int) (today : Date) : Prop :=
  ∃ r ∈ t.subscriptions.rows, r.id = id ∧ ¬r.Legible ∧
    (r.IsOverdue user today ∨ r.IsNotifiable user ∧ ∃ c, t.HasChannel user c)

end Store

namespace Script

variable {s t a t' a' : Store} {user id : Int} {today : Date} {defaultTemplate : String}

/-- Rows that cannot be read do not move. -/
theorem mem_rows_advanceUser_iff {subs : List Subscription}
    (found : t.findOverdue user today = .ok subs) {r : Row SubscriptionColumn}
    (illegible : ¬r.Legible) :
    r ∈ ((advanceUser user today).run .open t).2.subscriptions.rows ↔ r ∈ t.subscriptions.rows := by
  rw [rows_advanceUser found, List.mem_map]
  constructor
  · rintro ⟨r', mem, rfl⟩
    rcases Row.broughtUpTo_eq_or user today r' with same | ⟨sub, -, d, read, -, -, -, -, same⟩
    · rwa [same]
    · rw [same] at illegible
      exact absurd (Subscription.exists_ofRow_iff.mp ⟨_, Subscription.ofRow_movedTo read d⟩) illegible
  · intro mem
    refine ⟨r, mem, ?_⟩
    rcases Row.broughtUpTo_eq_or user today r with same | ⟨sub, -, -, read, -⟩
    · exact same
    · exact absurd (Subscription.exists_ofRow_iff.mp ⟨_, read⟩) illegible

/-- Channels are the same after the subscriptions have moved. -/
theorem hasChannel_advanceUser_iff {c : Channel} :
    ((advanceUser user today).run .open t).2.HasChannel user c ↔ t.HasChannel user c := by
  rw [HasChannel, HasChannel, (run_advanceUser user today .open t).channels]

/-- **A preparation without the subscription** finds what the one with it finds, less what is about it,
unless that subscription cannot be read and a query of the run meets it. -/
theorem run_prepare_of_not_blocks {q : Preparation} (lacks : Lacks id t a)
    (ready : (prepare defaultTemplate user today).run .open a = (.ok q, a'))
    (passes : ¬t.Blocks id user today) :
    ∃ p t', (prepare defaultTemplate user today).run .open t = (.ok p, t') ∧ Lacks id t' a' ∧
      q.jobs = p.jobs.filter (·.subscriptionId ≠ id) := by
  have legible {r : Row SubscriptionColumn} (mem : r ∈ t.subscriptions.rows) (own : r.id = id)
      (met : r.IsOverdue user today ∨ r.IsNotifiable user ∧ ∃ c, t.HasChannel user c) :
      r.Legible := by
    by_contra illegible
    exact passes ⟨r, mem, own, illegible, met⟩
  rw [run_prepare_open] at ready
  cases overdue : a.findOverdue user today with
  | error e =>
    rw [overdue] at ready
    cases ready
  | ok others =>
    rw [overdue] at ready
    simp only [Prod.mk.injEq] at ready
    obtain ⟨finds, rfl⟩ := ready
    cases finds' : ((advanceUser user today).run .open a).2.found defaultTemplate user today with
    | error e =>
      rw [finds'] at finds
      cases finds
    | ok q₀ =>
      rw [finds'] at finds
      cases finds
      rw [findOverdue_eq] at overdue
      have query := lacks.exists_query_iff ⟨others, overdue⟩
      rw [← findOverdue_eq] at query
      obtain ⟨subs, found⟩ := query.mpr fun r mem own late => legible mem own (.inl late)
      have lacks' := lacks.advanced found
      obtain ⟨p, found'⟩ := (lacks'.exists_found_iff ⟨q₀, finds'⟩).mpr fun r mem own met => by
        by_contra illegible
        simp only [hasChannel_advanceUser_iff] at met
        rw [mem_rows_advanceUser_iff found illegible] at mem
        exact illegible (legible mem own (.inr met))
      obtain ⟨q₁, finds'', jobs⟩ := lacks'.found found'
      cases finds'.symm.trans finds''
      refine ⟨{ p with advanced := (t.plan user today).length }, _, ?_, lacks', jobs⟩
      rw [run_prepare_open, found]
      simp only [found']
      rfl

/-- **A subscription that cannot be read ends the preparation** whose query meets it. -/
theorem run_prepare_of_blocks (defaultTemplate : String) (blocks : t.Blocks id user today) :
    ∃ failure, ((prepare defaultTemplate user today).run .open t).1 = .error failure := by
  obtain ⟨r, mem, -, illegible, met⟩ := blocks
  rw [run_prepare_open]
  cases found : t.findOverdue user today with
  | error e => exact ⟨_, rfl⟩
  | ok subs =>
    cases finds : ((advanceUser user today).run .open t).2.found defaultTemplate user today with
    | error e => exact ⟨_, rfl⟩
    | ok p =>
      exfalso
      rcases met with late | ⟨notifiable, c, known⟩
      · rw [findOverdue_eq] at found
        exact illegible (exists_readSubscriptions_iff_legible.mp ⟨subs, found⟩ r
          (List.mem_filter.mpr ⟨mem, decide_eq_true late⟩))
      · obtain ⟨channels, foundChannels, finds⟩ := found_eq_ok_iff.mp finds
        rcases finds with ⟨rfl, -⟩ | ⟨-, subs', -, -, foundSubs, -⟩
        · exact List.not_mem_nil
            ((mem_findChannels_iff foundChannels).mpr (hasChannel_advanceUser_iff.mpr known))
        · rw [findNotifiable_eq] at foundSubs
          refine illegible (exists_readSubscriptions_iff_legible.mp ⟨subs', foundSubs⟩ r ?_)
          exact List.mem_filter.mpr ⟨(mem_rows_advanceUser_iff found illegible).mpr mem,
            decide_eq_true notifiable⟩

end Script

end Reminders
