import Reminders.Delivery.Pool

/-!
Several workers at once.

Jobs wait in a queue. A worker takes the first of them, calls the sender, waits for what comes of it,
writes that into the delivery log, and takes the next job. `Crew.step` is what one worker does next.
Between taking a job and calling the sender others may act, so the sender may be called in another
order than the jobs were taken. Who acts next, what the sender answers, which calls the store refuses
and what time it is come from outside, as a `Turn`, so every order of the workers and every behaviour
of the sender is a list of turns.
-/

namespace Reminders

/-- What the sender was asked, and what it answered. -/
inductive Event where
  | called (job : Job)
  | returned (job : Job) (outcome : Except ChannelError Unit)

/-- What the workers share: the store, and what has passed between them and the sender. -/
structure World where
  store : Store
  events : List Event

/-- The world after one more event. -/
def World.note (w : World) (e : Event) : World := { w with events := w.events ++ [e] }

/-- Who acts next, and what the outside gives it. -/
structure Turn where
  /-- The place of a worker among those that take users. -/
  worker : Nat
  /-- The place of a worker among those that take the jobs of that user. -/
  jobWorker : Nat
  sender : Sender
  /-- Which calls the store refuses. -/
  desk : Desk
  now : Instant

/-- The store lets every entry through to the log. -/
def Turn.KeepsLog (t : Turn) : Prop := ∀ entry, t.desk (.insertLog entry) = none

/-- What a worker is doing. -/
inductive JobPhase where
  | waiting
  /-- The job is taken from the queue and the sender was not called. -/
  | holding (job : Job)
  /-- The sender was called and has not answered. -/
  | sending (job : Job)
  /-- The sender has answered and nothing is recorded yet. -/
  | sent (job : Job) (outcome : Except ChannelError Unit)

/-- A worker, with the counts of its own jobs. -/
structure JobWorker where
  phase : JobPhase
  stats : DeliveryStats

/-- A worker that has done nothing. -/
def JobWorker.fresh : JobWorker := ⟨.waiting, .zero⟩

/-- What a worker does next: it takes the first job of the queue, calls the sender, hears from it, or
records. -/
def JobWorker.step (timeout : Nat) (t : Turn) (w : JobWorker) (queue : List Job) (world : World) :
    Option (JobWorker × List Job × World) :=
  match w.phase with
  | .waiting =>
    match queue with
    | [] => none
    | j :: queue => some ({ w with phase := .holding j }, queue, world)
  | .holding j => some ({ w with phase := .sending j }, queue, world.note (.called j))
  | .sending j =>
    let outcome := j.outcome t.sender timeout
    some ({ w with phase := .sent j outcome }, queue, world.note (.returned j outcome))
  | .sent j outcome =>
    let (stats, store) := j.record outcome t.desk t.now world.store
    some (⟨.waiting, w.stats + stats⟩, queue, { world with store })

/-- A queue of jobs and the workers that drain it. -/
structure Crew where
  queue : List Job
  workers : List JobWorker

namespace Crew

/-- The start of a run: no more workers than jobs, and one at least when there is a job. -/
def start (concurrency : Nat) (jobs : List Job) : Crew :=
  ⟨jobs, List.replicate (min jobs.length (max concurrency 1)) .fresh⟩

/-- No job waits and no worker holds one. -/
def IsOver (c : Crew) : Prop := c.queue = [] ∧ ∀ w ∈ c.workers, w.phase = .waiting

instance (w : JobWorker) : Decidable (w.phase = .waiting) :=
  match w.phase with
  | .waiting => .isTrue rfl
  | .holding _ | .sending _ | .sent _ _ => .isFalse nofun

instance (c : Crew) : Decidable c.IsOver :=
  inferInstanceAs (Decidable (_ ∧ ∀ w ∈ c.workers, _))

/-- The counts of all workers. -/
def stats (c : Crew) : DeliveryStats := c.workers.foldl (fun total w => total + w.stats) .zero

/-- What the worker whose turn it is does next. -/
def step (timeout : Nat) (t : Turn) (c : Crew) (world : World) : Option (Crew × World) :=
  match c.workers[t.jobWorker]? with
  | none => none
  | some w =>
    (w.step timeout t c.queue world).map fun (w, queue, world) =>
      (⟨queue, c.workers.set t.jobWorker w⟩, world)

end Crew

end Reminders
