import Reminders.Proofs.Delivery.Account
import Reminders.Proofs.Scheduler.Course

/-!
Where the work of a tick stems from.

Whatever the sender answers, whichever calls the store refuses and whoever takes the turns, the run
of a user in a tick reads and moves the rows of that user only. So all that it sends and logs stems
from one preparation: the one that is played by itself, with no call refused, on the store that the
tick started from.

* `UserTask.StemsFrom`: a run that stems from a preparation.
* `Engine.TicksTo.stems`: every run of a tick stems from its preparation.
* `Round.Beside.mem_jobs`, `Round.Beside.exists_job`: so do its calls and its rows of the log.
-/

namespace Reminders

open Store

/-- **The account of a user is kept** in all turns. -/
theorem Crew.kept_account (e : Engine) (allowed : Turn → Prop) (user : Int)
    (prepared : Except Failure Preparation × Store) (logged : List (LogColumn → Cell)) :
    Kept e allowed user prepared logged fun q crew w =>
      crew.Account user q.jobs prepared.2 logged w where
  start _ theirs store silent := by
    rw [← silent.log]
    exact account_start _ theirs store silent.calls
  move _ account move := account.move move
  sameFor account same := account.sameFor same
  theirs account job mem := account.theirs job (account.atHand job mem)

/-- All that was sent for the user is among some jobs, and the rows that the log has got since it said
`logged` are entries of them. -/
structure World.BornOf (w : World) (user : Int) (jobs : List Job)
    (logged : List (LogColumn → Cell)) : Prop where
  calls : ∀ job ∈ w.callsFor user, job ∈ jobs
  entries : ∃ entries : List LogEntry, w.store.logFor user = logged ++ entries.map LogEntry.untimed ∧
    ∀ entry ∈ entries, ∃ job ∈ jobs, ∃ outcome now, entry = job.entry outcome now

theorem World.Silent.bornOf {w : World} {user : Int} {logged : List (LogColumn → Cell)}
    (silent : w.Silent user logged) (jobs : List Job) : w.BornOf user jobs logged := by
  refine ⟨?_, [], ?_, fun _ mem => absurd mem List.not_mem_nil⟩
  · rw [silent.calls]
    exact fun _ mem => absurd mem List.not_mem_nil
  · rw [silent.log, List.map_nil, List.append_nil]

namespace UserTask

variable {allowed : Turn → Prop} {user : Int} {task : UserTask} {w : World}
  {prepared : Except Failure Preparation × Store} {logged : List (LogColumn → Cell)}

/-- All that the run does stems from what its preparation gave, played by itself with no call refused
when the tick started. -/
abbrev StemsFrom (allowed : Turn → Prop) (user : Int)
    (prepared : Except Failure Preparation × Store) (logged : List (LogColumn → Cell)) :
    UserTask → World → Prop :=
  Tracks .open allowed user prepared logged fun q crew w =>
    crew.Account user q.jobs prepared.2 logged w

/-- **What the run sends and logs** are jobs of its preparation and entries of these. -/
theorem Tracks.bornOf (stems : task.StemsFrom allowed user prepared logged w) :
    w.BornOf user (Preparation.jobsOf prepared.1) logged := by
  have busy {q : Preparation} {crew : Crew} (ready : prepared.1 = .ok q)
      (account : crew.Account user q.jobs prepared.2 logged w) :
      w.BornOf user (Preparation.jobsOf prepared.1) logged := by
    rw [ready]
    exact ⟨fun job mem => account.calls.mem_iff.mp (List.mem_append_left _ mem), account.entries⟩
  cases task with
  | preparing work => exact stems.2.bornOf _
  | dispatching q crew => exact busy stems.1 stems.2.2
  | finished result =>
    cases result with
    | ok report =>
      obtain ⟨q, crew, -, -, ready, -, account⟩ := stems
      exact busy ready account
    | error failure => exact stems.1.bornOf _

end UserTask

/-! ### The runs of a tick -/

namespace Round

variable {e : Engine} {allowed : Turn → Prop} {today : Date} {s : Store} {order : List Int}
  {r : Round} {w : World}

/-- A tick in which every run stems from its preparation. -/
abbrev Stems (e : Engine) (allowed : Turn → Prop) (today : Date) (s : Store) :
    List Int → Round → World → Prop :=
  Beside (fun user task w => task.StemsFrom allowed user
    ((Script.prepare e.defaultTemplate user today).run .open s) (s.logFor user) w) e today s

/-- Every call of a tick is a job of the preparation of its user. -/
theorem Beside.mem_jobs (stems : Stems e allowed today s order r w) {job : Job}
    (called : job ∈ callsOf w.events) : job ∈ Preparation.jobsOf
      ((Script.prepare e.defaultTemplate job.userId today).run .open s).1 := by
  have mine : job ∈ w.callsFor job.userId := List.mem_filter.mpr ⟨called, decide_eq_true rfl⟩
  by_cases known : job.userId ∈ order
  · obtain ⟨x, held, same⟩ := List.mem_map.mp (stems.users.mem_iff.mpr known)
    rw [← same] at mine ⊢
    exact (stems.holds x held).bornOf.calls job mine
  · rw [(stems.others job.userId known).calls] at mine
    exact absurd mine List.not_mem_nil

/-- Every new row of the log is the entry of a job of the preparation of its user. -/
theorem Beside.exists_job (stems : Stems e allowed today s order r w) {cells : LogColumn → Cell}
    (new : cells ∈ s.logSince w.store) : ∃ user,
      ∃ job ∈ Preparation.jobsOf ((Script.prepare e.defaultTemplate user today).run .open s).1,
        ∃ outcome now, cells = (job.entry outcome now).untimed := by
  obtain ⟨user, theirs⟩ := stems.worked.grown.exists_user new
  have mine : cells ∈ (s.logSince w.store).filter fun cells => decide ((cells .userId).IsInt user) :=
    List.mem_filter.mpr ⟨new, decide_eq_true theirs⟩
  have log := stems.worked.grown.logFor_eq user
  by_cases known : user ∈ order
  · obtain ⟨x, held, rfl⟩ := List.mem_map.mp (stems.users.mem_iff.mpr known)
    obtain ⟨entries, log', stem⟩ := (stems.holds x held).bornOf.entries
    rw [List.append_cancel_left (log.symm.trans log')] at mine
    obtain ⟨entry, mem, rfl⟩ := List.mem_map.mp mine
    obtain ⟨job, planned, outcome, now, rfl⟩ := stem entry mem
    exact ⟨x.1, job, planned, outcome, now, rfl⟩
  · have same : w.store.logFor user = s.logFor user := (stems.others user known).log
    have none := List.append_cancel_left (log.symm.trans (same.trans (List.append_nil _).symm))
    rw [none] at mine
    exact absurd mine List.not_mem_nil

end Round

/-- **Every run of a tick stems from its preparation**, whichever turns are allowed. -/
theorem Engine.TicksTo.stems {e : Engine} {allowed : Turn → Prop} {today : Date} {s : Store}
    {r : Round} {w : World} (ticks : e.TicksTo allowed today s r w) :
    ∃ order : List Int, (∃ users, s.listUsers = .ok users ∧ order.Perm users) ∧
      Round.Stems e allowed today s order r w ∧ Round.Progress order r := by
  refine ticks.beside (UserTask.kept_tracks (fun user => Crew.kept_account e allowed user _ _)
    fun _ _ _ _ => rfl) fun user => ?_
  exact UserTask.tracks_start e .open allowed user today s _

end Reminders
