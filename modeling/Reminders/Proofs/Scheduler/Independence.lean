import Reminders.Proofs.Scheduler.Course
import Reminders.Proofs.Scheduler.Forward
import Reminders.Proofs.Scheduler.Listed

/-!
Users do not interfere.

The workers of a tick may take the users in any order, and between any two of their calls others may
act. Still every run follows its course, so what a tick does for a user depends on the part of that
user alone, and what it does as a whole on nothing but the store that it starts from.

* `Engine.TicksTo.course`: every run of a tick is on its course.
* `World.Outcome.agree`: what two ticks come to for a user is the same.
* `Engine.users_do_not_interfere`
-/

namespace Reminders

open Store

namespace Round

variable {e : Engine} {p : Pool} {today : Date} {s : Store} {order : List Int} {r : Round} {w : World}

/-- A tick in which every run is on its course. -/
abbrev Course (e : Engine) (p : Pool) (today : Date) (s : Store) : List Int → Round → World → Prop :=
  Beside (fun user task w => task.Follows p user
    ((Script.prepare e.defaultTemplate user today).run p.desk s) (s.logFor user) w) e today s

/-- **What a tick comes to for each user**, and the results of its runs. -/
theorem Beside.settled (course : Course e p today s order r w) (ended : r.IsOver) :
    (∀ user ∈ order, w.Settled p user
      ((Script.prepare e.defaultTemplate user today).run p.desk s) (s.logFor user)) ∧
      r.finished.Perm (order.map fun user =>
        (user, p.result ((Script.prepare e.defaultTemplate user today).run p.desk s).1)) := by
  obtain ⟨-, follows, users, -, -⟩ := course
  rw [tasks_eq_finished ended] at follows users
  have settled {x : Int × Except Failure UserReport} (mem : x ∈ r.finished) :=
    UserTask.Follows.settled (follows _ (List.mem_map.mpr ⟨x, mem, rfl⟩))
  rw [List.map_map] at users
  constructor
  · intro user mem
    obtain ⟨x, done, rfl⟩ := List.mem_map.mp (users.mem_iff.mpr mem)
    exact (settled done).2
  · refine List.Perm.trans (.of_eq ?_) (users.map _)
    rw [List.map_map]
    refine (List.map_id r.finished).symm.trans (List.map_congr_left fun x mem => ?_)
    exact Prod.ext rfl (settled mem).1

end Round

/-- **Every run of a tick is on its course** when there is one sender and one desk. -/
theorem Engine.TicksTo.course {e : Engine} {sender : Sender} {desk : Desk} {today : Date} {s : Store}
    {r : Round} {w : World} (ticks : e.TicksTo (Turn.With sender desk) today s r w) (now : Instant)
    (timeless : desk.Timeless) : ∃ order : List Int,
      (∃ users, s.listUsers = .ok users ∧ order.Perm users) ∧
        Round.Course e ⟨sender, e.timeout, desk, now⟩ today s order r w ∧
          Round.Progress order r :=
  ticks.beside (UserTask.kept_follows e sender desk s today now timeless) fun user =>
    UserTask.tracks_start e desk _ user today s _

/-! ### What a tick comes to -/

/-- The user is listed for a tick. -/
def Store.Lists (s : Store) (desk : Desk) (user : Int) : Prop :=
  ∃ users : List Int, s.serve desk .listUsers = .ok (users, s) ∧ user ∈ users

theorem Store.lists_iff {s : Store} {desk : Desk} {user : Int} : s.Lists desk user ↔
    desk .listUsers = none ∧ ∃ users, s.listUsers = .ok users ∧ user ∈ users := by
  constructor
  · rintro ⟨users, served, mem⟩
    obtain ⟨asks, -⟩ := serve_eq_ok_iff.mp served
    exact ⟨asks, users, (listUsers_of_serve served).1, mem⟩
  · rintro ⟨asks, users, listed, mem⟩
    exact ⟨users, serve_eq_ok_iff.mpr ⟨asks, Script.map_store_eq_ok_iff.mpr ⟨listed, rfl⟩⟩, mem⟩

/-- When a user has no channels, the others are listed as before. -/
theorem Store.lists_withoutChannels_iff {s : Store} {desk : Desk} {user other : Int}
    (different : other ≠ user) : (s.withoutChannels user).Lists desk other ↔ s.Lists desk other := by
  rw [lists_iff, lists_iff]
  refine and_congr_right fun _ => ?_
  constructor
  · rintro ⟨users', listed', mem⟩
    obtain ⟨users, listed⟩ := exists_listUsers_withoutChannels_iff.mp ⟨users', listed'⟩
    exact ⟨users, listed, (mem_listUsers_withoutChannels_iff listed listed' different).mp mem⟩
  · rintro ⟨users, listed, mem⟩
    obtain ⟨users', listed'⟩ := exists_listUsers_withoutChannels_iff.mpr ⟨users, listed⟩
    exact ⟨users', listed', (mem_listUsers_withoutChannels_iff listed listed' different).mpr mem⟩

/-- What a tick comes to: the run of each user in a list is settled, and nothing has happened to the
others. -/
structure World.Outcome (w : World) (template : String) (p : Pool) (today : Date) (s : Store)
    (order : List Int) : Prop where
  settled : ∀ user ∈ order, w.Settled p user
    ((Script.prepare template user today).run p.desk s) (s.logFor user)
  others : ∀ user, user ∉ order → World.SameFor user ⟨s, []⟩ w
  grown : s.Grown w.store

section

variable {e : Engine} {sender : Sender} {desk : Desk} {today : Date} {s s' : Store} {user : Int}
  {report report' : TickReport} {w w' : World} {n m : Nat} {order order' : List Int} {p : Pool}

/-- **The outcome of every tick** is that of its users. -/
theorem Engine.Ends.outcome (now : Instant) (timeless : desk.Timeless)
    (tick : e.Ticks sender desk today s report w) : ∃ order,
      w.Outcome e.defaultTemplate ⟨sender, e.timeout, desk, now⟩ today s order ∧
        ∀ user, user ∈ order ↔ s.Lists desk user := by
  cases tick with
  | refused refused =>
    refine ⟨[], ⟨nofun, fun user _ => .refl user _, .refl s⟩, fun user => ?_⟩
    refine ⟨nofun, ?_⟩
    rintro ⟨users, listed, -⟩
    cases refused.symm.trans listed
  | drained asks ticks ended =>
    obtain ⟨order, ⟨users, listed, drawn⟩, course, -⟩ := ticks.course now timeless
    refine ⟨order, ⟨(course.settled ended).1, course.others, course.worked.grown⟩, fun user => ?_⟩
    rw [drawn.mem_iff, lists_iff]
    constructor
    · exact fun mem => ⟨asks, users, listed, mem⟩
    · rintro ⟨-, users', listed', mem⟩
      cases listed.symm.trans listed'
      exact mem

/-- **What two ticks come to for a user is the same** when the stores that they start from are the same
for the user. -/
theorem World.Outcome.agree {template : String} (outcome : w.Outcome template p today s order)
    (outcome' : w'.Outcome template p today s' order') (same : Store.SameFor user s s')
    (log : s'.logFor user = s.logFor user) (listed : user ∈ order' ↔ user ∈ order) :
    (w'.callsFor user).Perm (w.callsFor user) ∧
      (w'.store.logFor user).Perm (w.store.logFor user) ∧
      w'.store.ofUser user = w.store.ofUser user := by
  by_cases mem : user ∈ order
  · obtain ⟨subscriptions, calls, log₁⟩ := outcome.settled user mem
    obtain ⟨subscriptions', calls', log₂⟩ := outcome'.settled user (listed.mpr mem)
    obtain ⟨prepared, store⟩ := Script.run_agree
      (Script.confined_prepare template user today s) same p.desk
    rw [prepared] at calls' log₂
    rw [log] at log₂
    exact ⟨calls'.trans calls.symm, log₂.trans log₁.symm,
      subscriptions'.trans (store.subscriptions.trans subscriptions.symm)⟩
  · have before := outcome.others user mem
    have before' := outcome'.others user fun mem' => mem (listed.mp mem')
    refine ⟨.of_eq (before'.calls.trans before.calls.symm), .of_eq ?_, ?_⟩
    · exact before'.log.trans (log.trans before.log.symm)
    · exact before'.store.subscriptions.trans
        (same.subscriptions.trans before.store.subscriptions.symm)

/-- Reports that add up the same runs are the same. -/
theorem Round.report_eq_of_perm {r r' : Round} (progress : Progress order r)
    (progress' : Progress order' r') (ended : r.IsOver) (ended' : r'.IsOver)
    (finished : r'.finished.Perm r.finished) : r'.report = r.report := by
  have length {order : List Int} {r : Round} (progress : Progress order r) (ended : r.IsOver) :
      r.users.length = r.finished.length := by
    have conserved := progress.conserved.length_eq
    rw [held_eq_nil ended.2, ended.1, List.append_nil, List.append_nil, List.length_map] at conserved
    rw [progress.users_eq, conserved]
  have succeeded : (succeeded r'.finished).Perm (succeeded r.finished) := finished.filterMap _
  have counted := progress.counted
  have counted' := progress'.counted
  rw [finished.length_eq, succeeded.length_eq] at counted'
  rw [report_eq, report_eq, progress.totals, progress'.totals, succeeded.sum_eq,
    length progress ended, length progress' ended', finished.length_eq]
  congr 1
  omega

/-- **The report of a tick** does not depend on who takes the turns. -/
theorem Engine.Ends.report_eq {k l : Nat} (timeless : desk.Timeless)
    (tick : Ticks { e with userConcurrency := n, jobConcurrency := m } sender desk today s report w)
    (tick' : Ticks { e with userConcurrency := k, jobConcurrency := l } sender desk today s report'
      w') : report' = report := by
  have refused {error : StoreError} (asks : desk .listUsers = none) {users : List Int}
      (listed : s.listUsers = .ok users) : s.serve desk .listUsers ≠ .error error := by
    rw [serve_eq_ok_iff.mpr ⟨asks, Script.map_store_eq_ok_iff.mpr ⟨listed, rfl⟩⟩]
    exact nofun
  cases tick with
  | refused failed =>
    cases tick' with
    | refused _ => rfl
    | drained asks ticks _ =>
      obtain ⟨users, -, listed, -⟩ := ticks
      exact absurd failed (refused asks listed)
  | drained asks ticks ended =>
    obtain ⟨order, ⟨users, listed, drawn⟩, course, progress⟩ :=
      ticks.course (.startOf today) timeless
    cases tick' with
    | refused failed => exact absurd failed (refused asks listed)
    | drained asks' ticks' ended' =>
      obtain ⟨order', ⟨users', listed', drawn'⟩, course', progress'⟩ :=
        ticks'.course (.startOf today) timeless
      cases listed.symm.trans listed'
      refine Round.report_eq_of_perm progress progress' ended ended' ?_
      refine (course'.settled ended').2.trans (List.Perm.trans ?_ (course.settled ended).2.symm)
      exact (drawn'.trans drawn.symm).map _

/-- Tables of subscriptions that have grown from one table and hold the same for every user. -/
theorem Store.Grown.subscriptions_eq {t t' : Store} (grown : s.Grown t) (grown' : s.Grown t')
    (same : ∀ user, t'.ofUser user = t.ofUser user) : t'.subscriptions = t.subscriptions := by
  obtain ⟨length, moved⟩ := List.forall₂_iff_get.mp grown.rows
  obtain ⟨length', moved'⟩ := List.forall₂_iff_get.mp grown'.rows
  refine Table.ext ?_ (grown'.lastId.trans grown.lastId.symm)
  refine List.ext_getElem (length'.symm.trans length) fun i lt' lt => ?_
  have start : i < s.subscriptions.rows.length := length ▸ lt
  obtain ⟨owner, unowned⟩ := (moved i start lt).owner
  obtain ⟨-, unowned'⟩ := (moved' i start lt').owner
  have same_id := (moved' i start lt').id_eq.trans (moved i start lt).id_eq.symm
  by_cases owned : ∃ user, ((s.subscriptions.rows.get ⟨i, start⟩).cell .userId).IsInt user
  · obtain ⟨user, theirs⟩ := owned
    rw [← owner] at theirs
    have here : t.subscriptions.rows.get ⟨i, lt⟩ ∈ t'.ofUser user := by
      rw [same user]
      exact mem_ofUser_iff.mpr ⟨List.get_mem _ _, theirs⟩
    exact Table.eq_of_id_eq (List.get_mem _ _) (mem_ofUser_iff.mp here).1 same_id
  · exact (unowned'.resolve_right owned).trans (unowned.resolve_right owned).symm

end

/-- **Users do not interfere.** With one sender and one desk, the tick that runs one user after the
other is one of the ticks. Any two ticks on a store, whatever the numbers of workers, the order in
which users are taken, the turns and their times, give the same report and leave the same
subscriptions; the sender is called with the same jobs and the log grows by the same rows, but for
their order, ids and times. When a user has no channels instead, the calls, the new rows and the
subscriptions of every other user are the same, whatever rows that user has and even if that run
fails. -/
theorem Engine.users_do_not_interfere (e : Engine) (sender : Sender) (desk : Desk)
    (timeless : desk.Timeless) (today : Date) (s : Store) :
    (∀ now, ∃ events, e.Ticks sender desk today s (e.tick sender desk now s today).report
      ⟨(e.tick sender desk now s today).store, events⟩ ∧
        callsOf events = (e.tick sender desk now s today).sent) ∧
    (∀ n m k l report report' w w',
      Ticks { e with userConcurrency := n, jobConcurrency := m } sender desk today s report w →
      Ticks { e with userConcurrency := k, jobConcurrency := l } sender desk today s report' w' →
        report' = report ∧ w'.store.subscriptions = w.store.subscriptions ∧
        (callsOf w'.events).Perm (callsOf w.events) ∧
        (s.logSince w'.store).Perm (s.logSince w.store) ∧
        ∃ rows, w.store.logs.rows = s.logs.rows ++ rows) ∧
    ∀ user n m k l report report' w w',
      Ticks { e with userConcurrency := n, jobConcurrency := m } sender desk today s report w →
      Ticks { e with userConcurrency := k, jobConcurrency := l } sender desk today
        (s.withoutChannels user) report' w' →
        ∀ other, other ≠ user → (w'.callsFor other).Perm (w.callsFor other) ∧
          (((s.withoutChannels user).logSince w'.store).filter fun cells =>
            (cells .userId).IsInt other).Perm
              ((s.logSince w.store).filter fun cells => (cells .userId).IsInt other) ∧
          w'.store.ofUser other = w.store.ofUser other := by
  refine ⟨fun now => e.ticks_tick sender desk now today s, ?_, ?_⟩
  · intro n m k l report report' w w' tick tick'
    obtain ⟨order, outcome, listed⟩ := tick.outcome (.startOf today) timeless
    obtain ⟨order', outcome', listed'⟩ := tick'.outcome (.startOf today) timeless
    have agree (user : Int) := outcome.agree outcome' (.refl user s) rfl
      ((listed' user).trans (listed user).symm)
    refine ⟨tick.report_eq timeless tick', ?_, ?_, ?_, ?_⟩
    · exact outcome.grown.subscriptions_eq outcome'.grown fun user => (agree user).2.2
    · refine perm_of_filter (P := fun user (job : Job) => job.userId = user)
        (fun job _ => ⟨job.userId, decide_eq_true rfl⟩) (fun job _ => ⟨job.userId, decide_eq_true rfl⟩)
        fun user => ?_
      exact (agree user).1
    · refine perm_of_filter (P := fun user (cells : LogColumn → Cell) => (cells .userId).IsInt user)
        ?_ ?_ fun user => ?_
      · intro cells mem
        obtain ⟨user, theirs⟩ := outcome.grown.exists_user mem
        exact ⟨user, decide_eq_true theirs⟩
      · intro cells mem
        obtain ⟨user, theirs⟩ := outcome'.grown.exists_user mem
        exact ⟨user, decide_eq_true theirs⟩
      · have log := (agree user).2.1
        rw [outcome.grown.logFor_eq, outcome'.grown.logFor_eq] at log
        exact (List.perm_append_left_iff _).mp log
    · obtain ⟨rows, log, -⟩ := outcome.grown.log
      exact ⟨rows, log⟩
  · intro user n m k l report report' w w' tick tick' other different
    obtain ⟨order, outcome, listed⟩ := tick.outcome (.startOf today) timeless
    obtain ⟨order', outcome', listed'⟩ := tick'.outcome (.startOf today) timeless
    obtain ⟨calls, log, subscriptions⟩ := outcome.agree outcome' (sameFor_withoutChannels different)
      rfl ((listed' other).trans (Iff.trans (lists_withoutChannels_iff different) (listed other).symm))
    rw [outcome.grown.logFor_eq, outcome'.grown.logFor_eq] at log
    exact ⟨calls, (List.perm_append_left_iff _).mp log, subscriptions⟩

/-- Two users with a reminder that charges today, of whom the second has another subscription that
cannot be read. -/
def Sample.shared : Store where
  users := ⟨[⟨1, fun _ => .text "ada@example.org"⟩, ⟨2, fun _ => .text "bob@example.org"⟩], 2, by simp,
    by simp⟩
  subscriptions := ⟨[⟨1, Sample.cells .month "2026-03-01"⟩,
    ⟨2, fun
      | .userId => .integer 2
      | .intervalCount => .text "one"
      | column => Sample.cells .day "2026-02-01" column⟩], 2, by simp, by simp⟩
  policies := .empty
  channels := ⟨[⟨1, fun
    | .userId => .integer 1
    | .channelType => .text ChannelType.ntfy.tag
    | .enabled => .integer 1
    | .config => .text "null"
    | .template => .null⟩,
    ⟨2, fun
    | .userId => .integer 2
    | .channelType => .text ChannelType.ntfy.tag
    | .enabled => .integer 1
    | .config => .text "null"
    | .template => .null⟩], 2, by simp, by simp⟩
  logs := .empty

/-- The first user is reminded whatever becomes of the second. -/
theorem Engine.users_do_not_interfere_sample : ∃ report w w' w'',
    Ticks Sample.engine Sample.sender .open Sample.today Sample.shared
      ⟨2, 1, ⟨0, 1, 0, 0, ⟨1, 0, 0⟩⟩⟩ w ∧
    Ticks { Sample.engine with userConcurrency := 1, jobConcurrency := 1 } Sample.sender .open
      Sample.today Sample.shared ⟨2, 1, ⟨0, 1, 0, 0, ⟨1, 0, 0⟩⟩⟩ w' ∧
    Ticks Sample.engine Sample.sender .open Sample.today (Sample.shared.withoutChannels 2) report w'' ∧
    (callsOf w.events).length = 1 ∧ (callsOf w'.events).Perm (callsOf w.events) ∧
      (w''.callsFor 1).Perm (w.callsFor 1) := by
  have timeless : Desk.Timeless .open := fun _ _ => rfl
  have total : (Sample.engine.tick Sample.sender .open Sample.noon Sample.shared
      Sample.today).report = ⟨2, 1, ⟨0, 1, 0, 0, ⟨1, 0, 0⟩⟩⟩ := by decide +kernel
  have once : (Sample.engine.tick Sample.sender .open Sample.noon Sample.shared
      Sample.today).sent.length = 1 := by decide +kernel
  obtain ⟨exist, agree, others⟩ := Sample.engine.users_do_not_interfere Sample.sender .open timeless
    Sample.today Sample.shared
  obtain ⟨events, tick, calls⟩ := exist Sample.noon
  obtain ⟨events', tick', -⟩ := ticks_tick
    { Sample.engine with userConcurrency := 1, jobConcurrency := 1 } Sample.sender .open Sample.noon
    Sample.today Sample.shared
  obtain ⟨events'', tick'', -⟩ := ticks_tick Sample.engine Sample.sender .open Sample.noon
    Sample.today (Sample.shared.withoutChannels 2)
  obtain ⟨report, -, same, -⟩ := agree 4 4 1 1 _ _ _ _ tick tick'
  obtain ⟨apart, -⟩ := others 2 4 4 4 4 _ _ _ _ tick tick'' 1 (by decide)
  rw [report] at tick'
  rw [total] at tick tick'
  exact ⟨_, _, _, _, tick, tick', tick'', by rw [calls, once], same, apart⟩

end Reminders
