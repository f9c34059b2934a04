import Reminders.Proofs.Scheduler.Again
import Reminders.Proofs.Scheduler.Origin

/-!
A tick after a clean one.

A tick is clean when every run succeeded, every job was taken and every entry was let into the log.
The next tick on the same day then has nothing to do: no worker ever changes the store or calls the
sender, and the report says again what the first one said, with all that was sent counted as sent
before.

* `UserTask.Calm.step`, `Round.calm_of_reached`: a tick whose runs have nothing to do.
* `Round.Beside.calm`: what a clean tick leaves to each run of the next one.
* `Engine.clean_tick_is_idempotent`
-/

namespace Reminders

open Store

variable {e : Engine} {t : Turn} {allowed : Turn → Prop} {today : Date} {s base : Store}

/-! ### Runs that have nothing to do -/

namespace UserTask

variable {report : UserReport} {task task' : UserTask} {w w' : World}

/-- The run changes nothing, has nothing to send, and comes to this report. -/
def Calm (base : Store) (report : UserReport) : UserTask → Prop
  | .preparing work => work.Still base ∧
      ∃ p, (work.run .open base).1 = .ok p ∧ p.jobs = [] ∧ p.report 0 = report
  | .dispatching p crew => crew.IsOver ∧ p.report crew.stats = report
  | .finished result => result = .ok report

/-- **A step of a run that has nothing to do** leaves the world as it is. -/
theorem Calm.step (calm : task.Calm w.store report) (asks : t.desk = .open)
    (stepped : task.step e t w = some (task', w')) : task'.Calm w.store report ∧ w' = w := by
  cases step_eq_some_iff.mp stepped with
  | answer served =>
    obtain ⟨still, p, ran, none, reported⟩ := calm
    have answered := answer_eq_of_serve_eq_ok served
    simp only [Script.run, serve_open, answered] at ran
    obtain ⟨rfl, still⟩ := still _ _ answered
    exact ⟨⟨still, p, ran, none, reported⟩, rfl⟩
  | refuse served =>
    obtain ⟨-, p, ran, -⟩ := calm
    rw [asks] at served
    simp only [Script.run, served] at ran
    cases ran
  | fail =>
    obtain ⟨-, p, ran, -⟩ := calm
    cases ran
  | dispatch =>
    obtain ⟨-, p, ran, none, reported⟩ := calm
    cases ran
    refine ⟨⟨⟨none, ?_⟩, ?_⟩, rfl⟩
    · intro w mem
      rw [Crew.start, none] at mem
      exact absurd mem List.not_mem_nil
    · rw [Crew.stats_start]
      exact reported
  | deliver busy => exact absurd calm.1 busy
  | report ended => exact ⟨congrArg Except.ok calm.2, rfl⟩

end UserTask

/-! ### Ticks that have nothing to do -/

namespace Round

variable {r : Round} {w : World} {order : List Int} {g : Int → UserReport} {b : Round × World}

/-- **A tick whose runs have nothing to do** leaves the world as it is, whoever takes the turns. -/
theorem calm_of_reached (asks : ∀ t, allowed t → t.desk = .open)
    (calm : ∀ user ∈ order, (UserTask.start e user today).Calm base (g user))
    (ran : Reaches e today allowed (start e order, ⟨base, []⟩) b) :
    b.2 = ⟨base, []⟩ ∧ (∀ x ∈ b.1.tasks e today, x.2.Calm base (g x.1)) ∧ Progress order b.1 := by
  induction ran with
  | refl =>
    refine ⟨rfl, fun x mem => ?_, progress_start e order⟩
    rw [tasks_start] at mem
    obtain ⟨user, known, rfl⟩ := List.mem_map.mp mem
    exact calm user known
  | @tail b c _ led ih =>
    obtain ⟨t, turn, stepped⟩ := led
    obtain ⟨world, calm, progress⟩ := ih
    have store : b.2.store = base := by rw [world]
    have move := step_eq_some_iff.mp stepped
    rcases move.tasks with ⟨user, task, task', rest, before, after, step⟩ | ⟨same, kept⟩
    · have mine := calm _ (before.mem_iff.mpr List.mem_cons_self)
      rw [← store] at mine
      obtain ⟨mine', kept⟩ := mine.step (asks t turn) step
      rw [store] at mine'
      refine ⟨kept.trans world, fun x mem => ?_, progress.move move⟩
      rcases List.mem_cons.mp (after.mem_iff.mp mem) with rfl | mem
      · exact mine'
      · exact calm x (before.mem_iff.mpr (List.mem_cons_of_mem _ mem))
    · exact ⟨kept.trans world, fun x mem => calm x (same.mem_iff.mp mem), progress.move move⟩

/-- The report of a tick whose runs have all succeeded. -/
theorem report_of_finished (progress : Progress order r) (ended : r.IsOver)
    (all : ∀ x ∈ r.finished, x.2 = .ok (g x.1)) :
    r.report = ⟨order.length, 0, (order.map g).sum⟩ := by
  have users := progress.conserved
  rw [held_eq_nil ended.2, ended.1, List.append_nil, List.append_nil] at users
  have reports : succeeded r.finished = (r.finished.map Prod.fst).map g := by
    rw [succeeded, List.map_map, ← List.filterMap_eq_map]
    refine List.filterMap_congr fun x mem => ?_
    rw [all x mem]
    rfl
  have counted := progress.counted
  rw [reports, List.length_map, List.length_map] at counted
  rw [report_eq, progress.users_eq, progress.totals, reports, (users.map g).sum_eq]
  congr 1
  omega

/-- Runs that have nothing to do are finished with their reports when the tick is over. -/
theorem report_of_calm (ended : r.IsOver) (progress : Progress order r)
    (calm : ∀ x ∈ r.tasks e today, x.2.Calm base (g x.1)) :
    r.report = ⟨order.length, 0, (order.map g).sum⟩ := by
  rw [tasks_eq_finished ended] at calm
  refine report_of_finished progress ended fun x mem => ?_
  exact calm _ (List.mem_map.mpr ⟨x, mem, rfl⟩)

end Round

/-! ### Clean ticks -/

namespace UserReport

/-- What a run on the same day reports once everything was sent: the same, with nothing to move and
nothing to send, and with all that was sent counted as sent before. -/
def again (r : UserReport) : UserReport :=
  ⟨0, r.due, r.alreadySent + r.delivery.sent, r.renderFailures, .zero⟩

theorem again_sum (reports : List UserReport) : (reports.map again).sum = reports.sum.again := by
  induction reports with
  | nil => rfl
  | cons report rest ih =>
    rw [List.map_cons, List.sum_cons, List.sum_cons, ih, add_def, add_def]
    simp only [again, DeliveryStats.add_sent, UserReport.mk.injEq, true_and]
    exact ⟨by omega, rfl⟩

/-- Reports that add up to no failures and no refused entries have none. -/
theorem clean_of_sum {reports : List UserReport} (failed : reports.sum.delivery.failed = 0)
    (errors : reports.sum.delivery.logErrors = 0) :
    ∀ report ∈ reports, report.delivery.failed = 0 ∧ report.delivery.logErrors = 0 := by
  induction reports with
  | nil => exact fun _ mem => absurd mem List.not_mem_nil
  | cons first rest ih =>
    rw [List.sum_cons, add_def] at failed errors
    simp only [DeliveryStats.add_failed, DeliveryStats.add_logErrors] at failed errors
    intro report mem
    rcases List.mem_cons.mp mem with rfl | mem
    · exact ⟨by omega, by omega⟩
    · exact ih (by omega) (by omega) report mem

end UserReport

/-- What the run of a user on a store reports, when every job is taken and every entry let in. -/
def Store.cleanReport (s : Store) (defaultTemplate : String) (today : Date) (user : Int) :
    UserReport :=
  match ((Script.prepare defaultTemplate user today).run .open s).1 with
  | .ok p => p.report ⟨p.jobs.length, 0, 0⟩
  | .error _ => 0

namespace Round

variable {r : Round} {w : World} {order : List Int}

/-- When no run is counted as failed, all have succeeded. -/
theorem exists_report (progress : Progress order r) (users : r.report.usersFailed = 0)
    {x : Int × Except Failure UserReport} (mem : x ∈ r.finished) :
    ∃ report ∈ succeeded r.finished, x.2 = .ok report := by
  rw [report_eq] at users
  have counted := progress.counted
  simp only at users
  rw [users, Nat.add_zero, succeeded, List.filterMap_length_eq_length] at counted
  obtain ⟨user, result⟩ := x
  cases result with
  | error failure => exact absurd (counted _ mem) Bool.false_ne_true
  | ok report => exact ⟨report, List.mem_filterMap.mpr ⟨_, mem, rfl⟩, rfl⟩

/-- **What a clean tick has done for each user**, and what it leaves to do. -/
theorem Beside.calm (stems : Stems e allowed today s order r w) (progress : Progress order r)
    (ended : r.IsOver) (users : r.report.usersFailed = 0)
    (failed : r.report.totals.delivery.failed = 0)
    (errors : r.report.totals.delivery.logErrors = 0) {x : Int × Except Failure UserReport}
    (mem : x ∈ r.finished) : x.2 = .ok (s.cleanReport e.defaultTemplate today x.1) ∧
      (UserTask.start e x.1 today).Calm w.store
        (s.cleanReport e.defaultTemplate today x.1).again := by
  obtain ⟨report, counted, result⟩ := exists_report progress users mem
  rw [report_eq, progress.totals] at failed errors
  obtain ⟨noneFailed, noErrors⟩ := UserReport.clean_of_sum failed errors report counted
  have held : (x.1, .finished x.2) ∈ r.tasks e today := by
    rw [tasks_eq_finished ended]
    exact List.mem_map.mpr ⟨x, mem, rfl⟩
  have stem := stems.holds _ held
  simp only [result] at stem
  obtain ⟨q, crew, rfl, ended, ready, subscriptions, account⟩ := stem
  obtain ⟨stats, sent⟩ := account.complete_of_isOver ended noneFailed noErrors
  cases prepared : (Script.prepare e.defaultTemplate x.1 today).run .open s with
  | mk result' moved =>
    simp only [prepared] at ready subscriptions sent
    cases ready
    have clean : s.cleanReport e.defaultTemplate today x.1 = q.report crew.stats := by
      rw [Store.cleanReport, prepared, stats]
    have same := Script.run_advanceUser x.1 today .open s
    rw [← (Script.run_prepare_eq_ok prepared).1] at same
    obtain ⟨again, still⟩ := Script.run_prepare_settled prepared
      (stems.worked.users.trans same.users.symm) (stems.worked.policies.trans same.policies.symm)
      (stems.worked.channels.trans same.channels.symm) subscriptions sent
    rw [clean]
    refine ⟨result, still, q.settled, congrArg Prod.fst again, q.jobs_settled, ?_⟩
    rw [q.report_settled crew.stats, UserReport.again]
    simp only [Preparation.report, stats]
    rfl

end Round

namespace Engine

variable {r r' : Round} {w w' : World} {first : TickReport}

/-- A tick leaves the users who are listed. -/
theorem TicksTo.listUsers_eq (ticks : e.TicksTo allowed today s r w) :
    w.store.listUsers = s.listUsers := by
  obtain ⟨order, -, stems, -⟩ := ticks.stems
  rw [listUsers, listUsers, enabledChannels, enabledChannels, stems.worked.channels]

/-- **A tick after a clean one** has nothing to do, and reports what is left. -/
theorem TicksTo.again (ticks : e.TicksTo allowed today s r w) (ended : r.IsOver)
    (users : r.report.usersFailed = 0) (failed : r.report.totals.delivery.failed = 0)
    (errors : r.report.totals.delivery.logErrors = 0)
    (ticks' : e.TicksTo (fun t => t.desk = .open) today w.store r' w') :
    w' = ⟨w.store, []⟩ ∧
      (r'.IsOver → r'.report = ⟨r.report.users, 0, r.report.totals.again⟩) := by
  have same := ticks.listUsers_eq
  obtain ⟨order, ⟨listed, found, drawn⟩, stems, progress⟩ := ticks.stems
  obtain ⟨listed', order', found', drawn', ran'⟩ := ticks'
  cases found.symm.trans (same.symm.trans found')
  have taken : order'.Perm order := drawn'.trans drawn.symm
  have clean {x : Int × Except Failure UserReport} (mem : x ∈ r.finished) :=
    stems.calm progress ended users failed errors mem
  have finished : (r.finished.map Prod.fst).Perm order := by
    have conserved := progress.conserved
    rwa [Round.held_eq_nil ended.2, ended.1, List.append_nil, List.append_nil] at conserved
  obtain ⟨world, calm, progress'⟩ := Round.calm_of_reached (fun _ asks => asks)
    (g := fun user => (s.cleanReport e.defaultTemplate today user).again) (fun user mem => by
      obtain ⟨x, done, rfl⟩ := List.mem_map.mp (finished.mem_iff.mpr (taken.mem_iff.mp mem))
      exact (clean done).2) ran'
  refine ⟨world, fun ended' => ?_⟩
  have sums := (taken.map (s.cleanReport e.defaultTemplate today)).sum_eq
  have report := Round.report_of_calm
    (g := fun user => (s.cleanReport e.defaultTemplate today user).again) ended' progress' calm
  rw [report, Round.report_of_finished progress ended fun x mem => (clean mem).1, taken.length_eq,
    ← sums, ← UserReport.again_sum, List.map_map]
  rfl

/-- **A clean tick is idempotent.** Let a tick end in which no run failed, no job failed and no entry
was refused, whatever the sender, the times and the order of the workers. Then in a tick on the store
that it leaves, on the same day, the store stays as it is and the sender is never called, at whatever
time and in whatever order. When it is over it reports the same users, the same reminders due and the
same failures to render, nothing moved, nothing sent, and as sent before what the first tick had found
sent and what it sent. So does the tick that runs one user after the other. -/
theorem clean_tick_is_idempotent (ticked : e.Ends .open allowed today s first w)
    (users : first.usersFailed = 0) (failed : first.totals.delivery.failed = 0)
    (errors : first.totals.delivery.logErrors = 0) :
    (∀ r w', e.TicksTo (fun t => t.desk = .open) today w.store r w' → w' = ⟨w.store, []⟩) ∧
    (∀ second w', e.Ends .open (fun t => t.desk = .open) today w.store second w' →
      w' = ⟨w.store, []⟩ ∧ second = ⟨first.users, 0,
        ⟨0, first.totals.due, first.totals.alreadySent + first.totals.delivery.sent,
          first.totals.renderFailures, ⟨0, 0, 0⟩⟩⟩) ∧
    ∀ sender now, e.tick sender .open now w.store today = ⟨⟨first.users, 0,
      ⟨0, first.totals.due, first.totals.alreadySent + first.totals.delivery.sent,
        first.totals.renderFailures, ⟨0, 0, 0⟩⟩⟩, [], w.store⟩ := by
  have still : ∀ r w', e.TicksTo (fun t => t.desk = .open) today w.store r w' →
      w' = ⟨w.store, []⟩ ∧ (r.IsOver → r.report = ⟨first.users, 0, first.totals.again⟩) := by
    intro r' w' ticks'
    cases ticked with
    | refused refused =>
      obtain ⟨_, _, found, -⟩ := ticks'
      simp only [serve_open, answer, found] at refused
      cases refused
    | drained _ ticks ended => exact ticks.again ended users failed errors ticks'
  have ends : ∀ second w', e.Ends .open (fun t => t.desk = .open) today w.store second w' →
      w' = ⟨w.store, []⟩ ∧ second = ⟨first.users, 0, first.totals.again⟩ := by
    intro second w' last
    cases last with
    | refused refused =>
      cases ticked with
      | refused _ => exact ⟨rfl, rfl⟩
      | drained _ ticks ended =>
        have same := ticks.listUsers_eq
        obtain ⟨_, _, found, -⟩ := ticks
        simp only [serve_open, answer, same.trans found] at refused
        cases refused
    | drained _ ticks' ended' =>
      obtain ⟨world, report⟩ := still _ _ ticks'
      exact ⟨world, report ended'⟩
  refine ⟨fun r w' ticks => (still r w' ticks).1, ends, fun sender now => ?_⟩
  obtain ⟨events, last, calls⟩ := e.ticks_tick sender .open now today w.store
  obtain ⟨world, report⟩ := ends _ _ (last.mono fun _ turn => turn.2)
  obtain ⟨store, silent⟩ := World.mk.inj world
  rw [silent] at calls
  cases outcome : e.tick sender .open now w.store today with
  | mk report' sent store' =>
    simp only [outcome] at report store calls
    rw [report, store, ← calls]
    rfl

/-- A day with one reminder, which the first tick sends and the second one finds sent. -/
theorem clean_tick_is_idempotent_sample : ∃ first : TickOutcome,
    first = Sample.engine.tick Sample.sender .open Sample.noon Sample.store Sample.today ∧
      first.report = ⟨1, 0, ⟨0, 1, 0, 0, ⟨1, 0, 0⟩⟩⟩ ∧
      ∀ sender now, Sample.engine.tick sender .open now first.store Sample.today =
        ⟨⟨1, 0, ⟨0, 1, 1, 0, ⟨0, 0, 0⟩⟩⟩, [], first.store⟩ := by
  have report : (Sample.engine.tick Sample.sender .open Sample.noon Sample.store
      Sample.today).report = ⟨1, 0, ⟨0, 1, 0, 0, ⟨1, 0, 0⟩⟩⟩ := by decide +kernel
  obtain ⟨events, ticked, -⟩ := Sample.engine.ticks_tick Sample.sender .open Sample.noon Sample.today
    Sample.store
  rw [report] at ticked
  exact ⟨_, rfl, report, (clean_tick_is_idempotent ticked rfl rfl rfl).2.2⟩

end Engine

end Reminders
