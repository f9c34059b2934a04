import Reminders.Delivery.Crew
import Reminders.Scheduler.Tick

/-!
A tick with several workers.

The users of a tick wait in a queue. A worker takes the first of them and carries out its run: what
is done before sending, one store call at a time, and then the jobs, which have workers of their own.
Each worker adds up the runs that it has finished, and the report of the tick adds up the workers.
`UserTask.step` and `Round.step` are what happens next when it is the turn of a worker; between two
calls of one worker every other may act.
-/

namespace Reminders

/-- How far the run of a user has got. -/
inductive UserTask where
  /-- What is left to do before sending. -/
  | preparing (work : Script Preparation)
  | dispatching (preparation : Preparation) (crew : Crew)
  | finished (result : Except Failure UserReport)

namespace UserTask

/-- The start of the run of a user on a day. -/
def start (e : Engine) (user : Int) (today : Date) : UserTask :=
  .preparing (Script.prepare e.defaultTemplate user today)

/-- What the run of a user does next. -/
def step (e : Engine) (t : Turn) : UserTask → World → Option (UserTask × World)
  | .preparing (.done p), world => some (.dispatching p (.start e.jobConcurrency p.jobs), world)
  | .preparing (.fail failure), world => some (.finished (.error failure), world)
  | .preparing (.ask call next), world =>
    match world.store.serve t.desk call with
    | .ok (reply, store) => some (.preparing (next reply), { world with store })
    | .error failure => some (.finished (.error (.database failure)), world)
  | .dispatching p crew, world =>
    if crew.IsOver then some (.finished (.ok (p.report crew.stats)), world)
    else (crew.step e.timeout t world).map fun (crew, world) => (.dispatching p crew, world)
  | .finished _, _ => none

end UserTask

/-- The report with another one's runs. The users are counted when they are listed. -/
def TickReport.merge (t other : TickReport) : TickReport :=
  ⟨t.users, t.usersFailed + other.usersFailed, t.totals + other.totals⟩

/-- A worker that takes users. -/
structure UserWorker where
  /-- The user at hand, and how far the run has got. -/
  task : Option (Int × UserTask)
  /-- The runs that this worker has finished. -/
  report : TickReport

/-- A worker that has done nothing. -/
def UserWorker.fresh : UserWorker := ⟨none, .zero⟩

/-- A tick that goes on. -/
structure Round where
  /-- The users that were listed. -/
  users : List Int
  /-- The users that nobody has taken yet. -/
  queue : List Int
  workers : List UserWorker
  /-- The runs that are finished, in the order in which they finished. -/
  finished : List (Int × Except Failure UserReport)

namespace Round

/-- The start of a tick: no more workers than users, and one at least when there is a user. -/
def start (e : Engine) (users : List Int) : Round :=
  ⟨users, users, List.replicate (min users.length (max e.userConcurrency 1)) .fresh, []⟩

/-- No user waits and no worker holds one. -/
def IsOver (r : Round) : Prop := r.queue = [] ∧ ∀ w ∈ r.workers, w.task = none

/-- The report of a tick, as far as it has got. -/
def report (r : Round) : TickReport :=
  r.workers.foldl (fun total w => total.merge w.report) ⟨r.users.length, 0, .zero⟩

/-- The tick with another worker in a place. -/
def put (r : Round) (place : Nat) (w : UserWorker) : Round :=
  { r with workers := r.workers.set place w }

/-- What the worker whose turn it is does next: it takes a user, goes on with the run at hand, or adds
a finished run to its report. -/
def step (e : Engine) (today : Date) (t : Turn) (r : Round) (world : World) :
    Option (Round × World) :=
  match r.workers[t.worker]? with
  | none => none
  | some w =>
    match w.task with
    | none =>
      match r.queue with
      | [] => none
      | user :: queue =>
        some ({ r with queue }.put t.worker { w with task := some (user, .start e user today) }, world)
    | some (user, .finished result) =>
      some ({ r with finished := r.finished ++ [(user, result)] }.put t.worker
        ⟨none, w.report.absorb result⟩, world)
    | some (user, task) =>
      (task.step e t world).map fun (task, world) =>
        (r.put t.worker { w with task := some (user, task) }, world)

end Round

end Reminders
