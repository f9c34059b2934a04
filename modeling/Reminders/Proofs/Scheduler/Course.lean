import Reminders.Proofs.Scheduler.Beside
import Reminders.Proofs.Scheduler.Reminders

/-!
The course of a run among others.

The preparation of a run reads and moves the rows of its user only, so beside others it comes to what
it would come to if it were played by itself when the tick starts. What the crew of the run does for
the user is said by a property of crews that their moves keep. So a run can be followed through a tick,
with one such property or another.

With one sender and one desk, the property is what the jobs are worth, and what the run comes to is
known when the tick starts.

* `Crew.Kept`: a property of the crew of a run, kept beside others.
* `UserTask.Tracks`, `UserTask.kept_tracks`: the run keeps to its preparation and to the property.
* `UserTask.Follows.settled`: what a run with one sender and one desk comes to.
-/

namespace Reminders

open Store

namespace Script

variable {desk : Desk} {s s' s₁ : Store} {defaultTemplate : String} {user : Int} {today : Date}
  {p : Preparation}

/-- What succeeds although calls may be refused succeeds when none is. -/
theorem run_open_eq_of_run_eq_ok {x : Script α} {a : α} (ran : x.run desk s = (.ok a, s')) :
    x.run .open s = (.ok a, s') := by
  induction x generalizing s with
  | done a => exact ran
  | fail failure => cases ran
  | ask call next ih =>
    simp only [run] at ran ⊢
    split at ran
    · rename_i reply t served
      rw [Store.serve_open, Store.answer_eq_of_serve_eq_ok served]
      exact ih reply ran
    · cases ran

/-- The jobs of a preparation are new: no two have one key, and none was sent. -/
theorem fresh_jobs (prepared : (prepare defaultTemplate user today).run desk s = (.ok p, s₁)) :
    (p.jobs.map Job.key).Nodup ∧ ∀ job ∈ p.jobs, ¬s₁.WasSent job.key := by
  replace prepared := run_open_eq_of_run_eq_ok prepared
  constructor
  · have distinct := nodup_jobs prepared
    refine List.Nodup.of_map (fun key : ReminderKey => (key.subscriptionId, key.channelType)) ?_
    rwa [List.map_map]
  · intro job mem
    exact ((mem_jobs_iff prepared).mp mem).not_wasSent

end Script

/-- What is left of a preparation keeps to the part of its user, and comes to what the preparation
gave. -/
structure Script.RunsTo (desk : Desk) (user : Int) (prepared : Except Failure Preparation × Store)
    (work : Script Preparation) (s : Store) : Prop where
  confined : work.Confined user (fun q s => ∀ job ∈ q.jobs, Theirs user s job) s
  result : (work.run desk s).1 = prepared.1
  store : SameFor user prepared.2 (work.run desk s).2

theorem Script.RunsTo.sameFor {desk : Desk} {user : Int} {s s' : Store} {work : Script Preparation}
    {prepared : Except Failure Preparation × Store} (runs : work.RunsTo desk user prepared s)
    (same : SameFor user s s') : work.RunsTo desk user prepared s' := by
  obtain ⟨result, store⟩ := run_agree runs.confined same desk
  refine ⟨?_, result.trans runs.result, runs.store.trans store⟩
  refine runs.confined.sameFor (fun q s t same theirs job mem => ?_) same
  exact (theirs job mem).sameFor same

/-- Nothing was sent for the user, and the log says `logged` about the user. -/
structure World.Silent (user : Int) (logged : List (LogColumn → Cell)) (w : World) : Prop where
  calls : w.callsFor user = []
  log : w.store.logFor user = logged

theorem World.Silent.sameFor {user : Int} {logged : List (LogColumn → Cell)} {w w' : World}
    (silent : w.Silent user logged) (same : World.SameFor user w w') : w'.Silent user logged :=
  ⟨same.calls.trans silent.calls, same.log.trans silent.log⟩

/-! ### Runs beside others -/

/-- What a crew does for a user is true of it when it starts on the jobs of the preparation, and is
kept in the turns that are allowed: by the moves of the crew, and by whatever is nothing to the
user. -/
structure Crew.Kept (e : Engine) (allowed : Turn → Prop) (user : Int)
    (prepared : Except Failure Preparation × Store) (logged : List (LogColumn → Cell))
    (does : Preparation → Crew → World → Prop) : Prop where
  start {q : Preparation} {w : World} (ready : prepared.1 = .ok q)
    (theirs : ∀ job ∈ q.jobs, Script.Theirs user w.store job)
    (store : SameFor user prepared.2 w.store) (silent : w.Silent user logged) :
    does q (.start e.jobConcurrency q.jobs) w
  move {q : Preparation} {t : Turn} {a b : Crew × World} (turn : allowed t) (done : does q a.1 a.2)
    (move : Crew.Move e.timeout t a b) : does q b.1 b.2
  sameFor {q : Preparation} {crew : Crew} {w w' : World} (done : does q crew w)
    (same : World.SameFor user w w') : does q crew w'
  theirs {q : Preparation} {crew : Crew} {w : World} (done : does q crew w) :
    ∀ job ∈ crew.atHand, Script.Theirs user w.store job

/-- A move of a crew changes no subscription. -/
theorem Crew.Move.subscriptions {timeout : Nat} {t : Turn} {a b : Crew × World}
    (move : Move timeout t a b) : b.2.store.subscriptions = a.2.store.subscriptions := by
  rcases move.atHand.2 with same | ⟨job, -, outcome, same⟩
  · rw [same]
  · rw [same, Store.logged_subscriptions]

namespace UserTask

section

variable {e : Engine} {desk : Desk} {allowed : Turn → Prop} {t : Turn} {user : Int}
  {prepared : Except Failure Preparation × Store} {logged : List (LogColumn → Cell)}
  {does : Preparation → Crew → World → Prop} {task task' : UserTask} {w w' : World}

/-- The run keeps to what its preparation gave, played by itself when the tick started, and its crew
does what it does. A run that fails has sent and logged nothing; it fails as the preparation does
when all turns have the desk of the preparation. -/
def Tracks (desk : Desk) (allowed : Turn → Prop) (user : Int)
    (prepared : Except Failure Preparation × Store) (logged : List (LogColumn → Cell))
    (does : Preparation → Crew → World → Prop) : UserTask → World → Prop
  | .preparing work, w => work.RunsTo desk user prepared w.store ∧ w.Silent user logged
  | .dispatching q crew, w =>
    prepared.1 = .ok q ∧ w.store.ofUser user = prepared.2.ofUser user ∧ does q crew w
  | .finished (.ok report), w => ∃ (q : Preparation) (crew : Crew),
    report = q.report crew.stats ∧ crew.IsOver ∧
      prepared.1 = .ok q ∧ w.store.ofUser user = prepared.2.ofUser user ∧ does q crew w
  | .finished (.error failure), w => w.Silent user logged ∧ ((∀ t, allowed t → t.desk = desk) →
    prepared.1 = .error failure ∧ w.store.ofUser user = prepared.2.ofUser user)

theorem tracks_start (e : Engine) (desk : Desk) (allowed : Turn → Prop) (user : Int) (today : Date)
    (s : Store) (does : Preparation → Crew → World → Prop) :
    (start e user today).Tracks desk allowed user
      ((Script.prepare e.defaultTemplate user today).run desk s) (s.logFor user) does ⟨s, []⟩ :=
  ⟨⟨Script.confined_prepare e.defaultTemplate user today s, rfl, .refl user _⟩, rfl, rfl⟩

/-- **A step of a run** keeps to its preparation, as long as the desk of the preparation lets through
what the desks of the turns let through. -/
theorem Tracks.step (kept : Crew.Kept e allowed user prepared logged does)
    (passes : ∀ t, allowed t → ∀ call, t.desk call = none → desk call = none) (turn : allowed t)
    (tracks : task.Tracks desk allowed user prepared logged does w)
    (stepped : task.step e t w = some (task', w')) :
    task'.Tracks desk allowed user prepared logged does w' := by
  cases step_eq_some_iff.mp stepped with
  | @answer call next world reply after served =>
    obtain ⟨⟨⟨permits, rest⟩, result, store⟩, calls, log⟩ := tracks
    obtain ⟨asked, answered⟩ := serve_eq_ok_iff.mp served
    have passed : w.store.serve desk call = .ok (reply, after) :=
      serve_eq_ok_iff.mpr ⟨passes t turn call asked, answered⟩
    simp only [Script.run, passed] at result store
    refine ⟨⟨rest reply after answered, result, store⟩, calls, ?_⟩
    rw [← log, Store.logFor, Store.logFor,
      (sameButDates_of_answer permits.readsOrMoves answered).logs]
  | refuse served =>
    obtain ⟨⟨-, result, store⟩, silent⟩ := tracks
    refine ⟨silent, fun same => ?_⟩
    rw [same t turn] at served
    simp only [Script.run, served] at result store
    exact ⟨result.symm, store.subscriptions⟩
  | fail =>
    obtain ⟨⟨-, result, store⟩, silent⟩ := tracks
    exact ⟨silent, fun _ => ⟨result.symm, store.subscriptions⟩⟩
  | dispatch =>
    obtain ⟨⟨confined, result, store⟩, silent⟩ := tracks
    exact ⟨result.symm, store.subscriptions, kept.start result.symm confined store silent⟩
  | deliver busy move =>
    obtain ⟨ready, subscriptions, done⟩ := tracks
    refine ⟨ready, ?_, kept.move turn done move⟩
    rw [← subscriptions, Store.ofUser, Store.ofUser, move.subscriptions]
  | report ended =>
    obtain ⟨ready, subscriptions, done⟩ := tracks
    exact ⟨_, _, rfl, ended, ready, subscriptions, done⟩

/-- The steps of others change nothing about it. -/
theorem Tracks.sameFor (kept : Crew.Kept e allowed user prepared logged does)
    (tracks : task.Tracks desk allowed user prepared logged does w)
    (same : World.SameFor user w w') : task.Tracks desk allowed user prepared logged does w' := by
  cases task with
  | preparing work => exact ⟨tracks.1.sameFor same.store, tracks.2.sameFor same⟩
  | dispatching q crew =>
    obtain ⟨ready, subscriptions, done⟩ := tracks
    exact ⟨ready, same.store.subscriptions.trans subscriptions, kept.sameFor done same⟩
  | finished result =>
    cases result with
    | ok report =>
      obtain ⟨q, crew, reported, ended, ready, subscriptions, done⟩ := tracks
      exact ⟨q, crew, reported, ended, ready, same.store.subscriptions.trans subscriptions,
        kept.sameFor done same⟩
    | error failure =>
      refine ⟨tracks.1.sameFor same, fun desks => ?_⟩
      obtain ⟨failed, subscriptions⟩ := tracks.2 desks
      exact ⟨failed, same.store.subscriptions.trans subscriptions⟩

theorem Tracks.confined (kept : Crew.Kept e allowed user prepared logged does)
    (tracks : task.Tracks desk allowed user prepared logged does w) :
    task.Confined user w.store := by
  cases task with
  | preparing work => exact tracks.1.confined
  | dispatching q crew => exact kept.theirs tracks.2.2
  | finished result => trivial

end

/-- **A run keeps to its preparation beside others.** -/
theorem kept_tracks {e : Engine} {desk : Desk} {allowed : Turn → Prop}
    {prepared : Int → Except Failure Preparation × Store} {logged : Int → List (LogColumn → Cell)}
    {does : Int → Preparation → Crew → World → Prop}
    (kept : ∀ user, Crew.Kept e allowed user (prepared user) (logged user) (does user))
    (passes : ∀ t, allowed t → ∀ call, t.desk call = none → desk call = none) :
    Kept e allowed fun user task w =>
      task.Tracks desk allowed user (prepared user) (logged user) (does user) w where
  step turn tracks stepped := tracks.step (kept _) passes turn stepped
  sameFor tracks same := tracks.sameFor (kept _) same
  confined tracks := tracks.confined (kept _)

end UserTask

/-! ### Runs with one sender and one desk -/

/-- The jobs of a preparation, if it succeeds. -/
def Preparation.jobsOf : Except Failure Preparation → List Job
  | .ok q => q.jobs
  | .error _ => []

/-- The result of a run after a preparation: all jobs are sent. -/
def Pool.result (p : Pool) : Except Failure Preparation → Except Failure UserReport
  | .ok q => .ok (q.report (q.jobs.map p.worth).sum)
  | .error failure => .error failure

/-- What a run comes to after a preparation, when the log said `logged` about the user before. -/
structure World.Settled (w : World) (p : Pool) (user : Int)
    (prepared : Except Failure Preparation × Store) (logged : List (LogColumn → Cell)) : Prop where
  subscriptions : w.store.ofUser user = prepared.2.ofUser user
  calls : (w.callsFor user).Perm (Preparation.jobsOf prepared.1)
  log : (w.store.logFor user).Perm (logged ++ (Preparation.jobsOf prepared.1).flatMap p.leaves)

/-- **The share of a user is kept** with one sender and one desk. -/
theorem Crew.kept_share {e : Engine} {p : Pool} (timeout : p.timeout = e.timeout)
    (timeless : p.desk.Timeless) (s : Store) (user : Int) (today : Date) :
    Kept e (Turn.With p.sender p.desk) user
      ((Script.prepare e.defaultTemplate user today).run p.desk s) (s.logFor user)
      (fun q crew w => crew.Share p user q.jobs (s.logFor user) w) where
  start {q w} ready theirs store silent := by
    obtain ⟨distinct, unsent⟩ := Script.fresh_jobs (Prod.ext ready rfl)
    rw [← silent.log]
    refine share_start _ theirs distinct (fun job mem sent => unsent job mem ?_) silent.calls
    exact (store.sent job.key (store.owns_iff.mp (theirs job mem).1)).mp sent
  move turn share move := by
    rw [← timeout] at move
    exact share.move turn.1 turn.2 timeless move
  sameFor share same := share.sameFor same
  theirs share := share.theirs

namespace UserTask

/-- The run is on the course that leads to what its preparation, played by itself when the tick
started, gave. -/
abbrev Follows (p : Pool) (user : Int) (prepared : Except Failure Preparation × Store)
    (logged : List (LogColumn → Cell)) : UserTask → World → Prop :=
  Tracks p.desk (Turn.With p.sender p.desk) user prepared logged fun q crew w =>
    crew.Share p user q.jobs logged w

/-- **Every run stays on its course** when there is one sender and one desk. -/
theorem kept_follows (e : Engine) (sender : Sender) (desk : Desk) (s : Store) (today : Date)
    (now : Instant) (timeless : desk.Timeless) :
    Kept e (Turn.With sender desk) fun user task w =>
      task.Follows ⟨sender, e.timeout, desk, now⟩ user
        ((Script.prepare e.defaultTemplate user today).run desk s) (s.logFor user) w := by
  have kept (user : Int) :=
    Crew.kept_share (e := e) (p := ⟨sender, e.timeout, desk, now⟩) rfl timeless s user today
  refine kept_tracks kept ?_
  rintro t ⟨-, same⟩ call asked
  exact same ▸ asked

/-- **What a run on its course comes to.** -/
theorem Follows.settled {p : Pool} {user : Int} {prepared : Except Failure Preparation × Store}
    {logged : List (LogColumn → Cell)} {w : World} {result : Except Failure UserReport}
    (follows : (finished result).Follows p user prepared logged w) :
    result = p.result prepared.1 ∧ w.Settled p user prepared logged := by
  cases result with
  | ok report =>
    obtain ⟨q, crew, rfl, ended, ready, subscriptions, share⟩ := follows
    obtain ⟨calls, log, stats⟩ := share.settled ended
    refine ⟨?_, subscriptions, ?_, ?_⟩
    · rw [ready, stats]
      rfl
    · rwa [ready]
    · rwa [ready]
  | error failure =>
    obtain ⟨⟨calls, log⟩, desks⟩ := follows
    obtain ⟨failed, subscriptions⟩ := desks fun t turn => turn.2
    refine ⟨?_, subscriptions, ?_, ?_⟩
    · rw [failed]
      rfl
    · rw [failed, calls]
      rfl
    · rw [failed, log]
      exact .of_eq (List.append_nil _).symm

end UserTask

end Reminders
