import Reminders.Proofs.Scheduler.Round

/-!
One turn after the other.

`Engine.runUser` sends one job after the other and `Engine.tick` runs one user after the other. Both
are what the workers do when the first worker takes every turn, with one sender and one desk.

* `Engine.runs_runUser`: the run of a user.
* `Engine.runs_tick`: a tick.
-/

namespace Reminders

/-- The first worker takes the turn. -/
def Turn.first (sender : Sender) (desk : Desk) (now : Instant) : Turn := ⟨0, 0, sender, desk, now⟩

/-- One turn, taken again and again, leads from one state to another. -/
abbrev Repeats (t : Turn) (step : Turn → σ → World → Option (σ × World)) :
    σ × World → σ × World → Prop :=
  Relation.ReflTransGen fun a b => step t a.1 a.2 = some b

theorem Runs.of_repeats {t : Turn} {step : Turn → σ → World → Option (σ × World)} {a b : σ × World}
    (repeated : Repeats t step a b) : Runs step a b :=
  Relation.ReflTransGen.mono (fun _ _ led => ⟨t, led⟩) a b repeated

/-- There is a worker when there is something to do. -/
theorem exists_workers (a : α) (rest : List α) (concurrency : Nat) :
    ∃ k, min (a :: rest).length (max concurrency 1) = k + 1 := by
  refine ⟨min (a :: rest).length (max concurrency 1) - 1, ?_⟩
  rw [List.length_cons]
  omega

/-! ### The run of a user -/

theorem Crew.runs_pool (p : Pool) (jobs : List Job) (stats : DeliveryStats)
    (others : List JobWorker) (world : World) :
    ∃ events, Repeats (.first p.sender p.desk p.now) (Crew.step p.timeout)
        (⟨jobs, ⟨.waiting, stats⟩ :: others⟩, world)
        (⟨[], ⟨.waiting, stats + (p.run world.store jobs).1⟩ :: others⟩,
          ⟨(p.run world.store jobs).2, events⟩) ∧
      callsOf events = callsOf world.events ++ jobs := by
  induction jobs generalizing stats world with
  | nil =>
    refine ⟨world.events, ?_, (List.append_nil _).symm⟩
    rw [show stats + (p.run world.store []).1 = stats from add_zero stats]
    exact .refl
  | cons job rest ih =>
    let outcome := job.outcome p.sender p.timeout
    let recorded := job.record outcome p.desk p.now world.store
    obtain ⟨events, ran, calls⟩ := ih (stats + recorded.1)
      ⟨recorded.2, world.events ++ [.called job] ++ [.returned job outcome]⟩
    rw [callsOf_append, callsOf_append, callsOf_called, callsOf_returned, List.append_nil,
      List.append_assoc] at calls
    refine ⟨events, ?_, calls⟩
    have total : stats + (p.run world.store (job :: rest)).1 =
        stats + recorded.1 + (p.run recorded.2 rest).1 := (add_assoc _ _ _).symm
    rw [total]
    exact .head rfl (.head rfl (.head rfl (.head rfl ran)))

/-- A crew whose first worker takes every turn does what the pool does. -/
theorem Crew.runs_start (p : Pool) (concurrency : Nat) (jobs : List Job) (world : World) :
    ∃ c events, Repeats (.first p.sender p.desk p.now) (Crew.step p.timeout)
        (.start concurrency jobs, world) (c, ⟨(p.run world.store jobs).2, events⟩) ∧
      c.IsOver ∧ c.stats = (p.run world.store jobs).1 ∧
        callsOf events = callsOf world.events ++ jobs := by
  cases jobs with
  | nil =>
    refine ⟨_, world.events, .refl, ⟨rfl, ?_⟩, rfl, (List.append_nil _).symm⟩
    intro w hw
    exact absurd hw (by simp [start])
  | cons job rest =>
    obtain ⟨k, workers⟩ := exists_workers job rest concurrency
    obtain ⟨events, ran, calls⟩ := runs_pool p (job :: rest) .zero (List.replicate k .fresh) world
    rw [start, workers, List.replicate_succ]
    refine ⟨_, events, ran, ⟨rfl, ?_⟩, ?_, calls⟩
    · intro w hw
      rcases List.mem_cons.mp hw with rfl | hw
      · rfl
      · rw [List.eq_of_mem_replicate hw]; rfl
    · rw [stats_eq_sum, List.map_cons, List.sum_cons,
        sum_map_replicate k JobWorker.fresh (·.stats) rfl, add_zero]
      exact zero_add _

theorem Crew.not_isOver_of_step {timeout : Nat} {t : Turn} {c : Crew} {world : World}
    {b : Crew × World} (stepped : c.step timeout t world = some b) : ¬c.IsOver := by
  rintro ⟨empty, waiting⟩
  cases step_eq_some_iff.mp stepped with
  | take => cases empty
  | call | hear | record | refuse =>
    exact nomatch waiting _ (List.mem_append_right _ List.mem_cons_self)

namespace UserTask

/-- The turns of a crew are turns of the run that it belongs to. -/
theorem runs_dispatching {e : Engine} {t : Turn} {p : Preparation} {a b : Crew × World}
    (ran : Repeats t (Crew.step e.timeout) a b) :
    Repeats t (UserTask.step e) (.dispatching p a.1, a.2) (.dispatching p b.1, b.2) := by
  refine ran.lift (fun c => (UserTask.dispatching p c.1, c.2)) fun c d stepped => ?_
  simp only [Function.onFun, UserTask.step, if_neg (Crew.not_isOver_of_step stepped), stepped,
    Option.map_some]

/-- A crew that is done finishes the run that it belongs to. -/
theorem runs_finished {e : Engine} {p : Preparation} {c : Crew} (t : Turn) (ended : c.IsOver)
    (world : World) :
    Repeats t (UserTask.step e) (.dispatching p c, world)
      (.finished (.ok (p.report c.stats)), world) :=
  .single (by simp only [UserTask.step, if_pos ended])

/-- What a preparation that is played leads to. -/
theorem runs_preparing (e : Engine) (t : Turn) (work : Script Preparation) (world : World) :
    Repeats t (UserTask.step e) (.preparing work, world)
      (match work.run t.desk world.store with
        | (.ok p, store) => (.dispatching p (.start e.jobConcurrency p.jobs), { world with store })
        | (.error failure, store) => (.finished (.error failure), { world with store })) := by
  induction work generalizing world with
  | done p => exact .single rfl
  | fail failure => exact .single rfl
  | ask call next ih =>
    simp only [Script.run]
    cases served : world.store.serve t.desk call with
    | error e => exact .single (by simp only [UserTask.step, served])
    | ok reply =>
      exact .head (by simp only [UserTask.step, served]) (ih reply.1 { world with store := reply.2 })

end UserTask

namespace Engine

/-- **The run that sends one job after the other** is one of the runs, whatever the number of
workers. -/
theorem runs_runUser (e : Engine) (sender : Sender) (desk : Desk) (now : Instant) (world : World)
    (user : Int) (today : Date) :
    ∃ events, Repeats (.first sender desk now) (UserTask.step e) (.start e user today, world)
        (.finished (e.runUser sender desk now world.store user today).result,
          ⟨(e.runUser sender desk now world.store user today).store, events⟩) ∧
      callsOf events =
        callsOf world.events ++ (e.runUser sender desk now world.store user today).sent := by
  have prepared := UserTask.runs_preparing e (.first sender desk now)
    (Script.prepare e.defaultTemplate user today) world
  unfold runUser
  cases played : (Script.prepare e.defaultTemplate user today).run desk world.store with
  | mk result store =>
    simp only [Turn.first, played] at prepared
    cases result with
    | error failure => exact ⟨world.events, prepared, (List.append_nil _).symm⟩
    | ok p =>
      obtain ⟨c, events, ran, ended, stats, calls⟩ := Crew.runs_start
        ⟨sender, e.timeout, desk, now⟩ e.jobConcurrency p.jobs { world with store }
      refine ⟨events, ?_, calls⟩
      change Repeats _ (UserTask.step e) _ (.finished (.ok (p.report _)), ⟨_, events⟩)
      rw [← stats]
      exact (prepared.trans (UserTask.runs_dispatching ran)).trans
        (UserTask.runs_finished (.first sender desk now) ended _)

end Engine

/-! ### Ticks -/

namespace Round

/-- The turns of a run are turns of the tick that it belongs to. -/
theorem runs_held {e : Engine} {today : Date} {t : Turn} (first : t.worker = 0)
    {users queue : List Int} {user : Int} {report : TickReport} {others : List UserWorker}
    {finished : List (Int × Except Failure UserReport)} {a b : UserTask × World}
    (ran : Repeats t (UserTask.step e) a b) :
    Repeats t (Round.step e today)
      (⟨users, queue, ⟨some (user, a.1), report⟩ :: others, finished⟩, a.2)
      (⟨users, queue, ⟨some (user, b.1), report⟩ :: others, finished⟩, b.2) := by
  refine ran.lift (fun c => ((⟨users, queue, ⟨some (user, c.1), report⟩ :: others, finished⟩ : Round),
    c.2)) fun c d stepped => ?_
  have place : ([] : List UserWorker).length = t.worker := first.symm
  exact step_eq_some_iff.mpr (.work place stepped)

/-- A tick whose first worker takes every turn runs one user after the other. -/
theorem runs_users (e : Engine) (sender : Sender) (desk : Desk) (now : Instant) (today : Date)
    (users queue : List Int) (worker : TickReport) (others : List UserWorker)
    (finished : List (Int × Except Failure UserReport)) (world : World) :
    let after := e.runUsers sender desk now today queue
      ⟨⟨users.length, worker.usersFailed, worker.totals⟩, callsOf world.events, world.store⟩
    ∃ worker' finished' events,
      Repeats (.first sender desk now) (step e today)
        (⟨users, queue, ⟨none, worker⟩ :: others, finished⟩, world)
        (⟨users, [], ⟨none, worker'⟩ :: others, finished'⟩, ⟨after.store, events⟩) ∧
      after.sent = callsOf events ∧
        after.report = ⟨users.length, worker'.usersFailed, worker'.totals⟩ := by
  induction queue generalizing worker finished world with
  | nil => exact ⟨worker, finished, world.events, .refl, rfl, rfl⟩
  | cons user rest ih =>
    obtain ⟨events, ran, calls⟩ := e.runs_runUser sender desk now world user today
    simp only [Engine.runUsers]
    generalize e.runUser sender desk now world.store user today = outcome at ran calls ⊢
    obtain ⟨worker', finished', events', later, sent, report⟩ :=
      ih (worker.absorb outcome.result) (finished ++ [(user, outcome.result)])
        ⟨outcome.store, events⟩
    have absorbed : (⟨users.length, worker.usersFailed, worker.totals⟩ : TickReport).absorb
        outcome.result = ⟨users.length, (worker.absorb outcome.result).usersFailed,
          (worker.absorb outcome.result).totals⟩ := by
      cases outcome.result <;> rfl
    rw [← absorbed, calls] at later sent report
    refine ⟨worker', finished', events', ?_, sent, report⟩
    refine .head rfl ?_
    exact (runs_held rfl ran).trans (.head rfl later)

end Round

/-- **The tick that runs one user after the other** is one of the ticks, whatever the number of
workers. -/
theorem Engine.runs_tick (e : Engine) (sender : Sender) (desk : Desk) (now : Instant)
    (s s' : Store) (today : Date) (users : List Int)
    (listed : s.serve desk .listUsers = .ok (users, s')) :
    ∃ r events, Repeats (.first sender desk now) (Round.step e today) (.start e users, ⟨s', []⟩)
        (r, ⟨(e.tick sender desk now s today).store, events⟩) ∧
      r.IsOver ∧ r.report = (e.tick sender desk now s today).report ∧
        callsOf events = (e.tick sender desk now s today).sent := by
  simp only [tick, listed]
  cases users with
  | nil =>
    refine ⟨_, [], .refl, ⟨rfl, ?_⟩, rfl, rfl⟩
    intro w hw
    exact absurd hw (by simp [Round.start])
  | cons user rest =>
    obtain ⟨k, workers⟩ := exists_workers user rest e.userConcurrency
    obtain ⟨worker, finished, events, ran, sent, report⟩ := Round.runs_users e sender desk now today
      (user :: rest) (user :: rest) .zero (List.replicate k .fresh) [] ⟨s', []⟩
    rw [Round.start, workers, List.replicate_succ]
    refine ⟨_, events, ran, ⟨rfl, ?_⟩, ?_, sent.symm⟩
    · intro w hw
      rcases List.mem_cons.mp hw with rfl | hw
      · rfl
      · rw [List.eq_of_mem_replicate hw]; rfl
    · rw [Round.report_eq, List.map_cons, List.map_cons, List.sum_cons, List.sum_cons,
        sum_map_replicate k UserWorker.fresh (·.report.usersFailed) rfl,
        sum_map_replicate k UserWorker.fresh (·.report.totals) rfl, add_zero, add_zero]
      exact report.symm

/-! ### A store with one reminder -/

namespace Sample

def today : Date := ⟨2026, 3, 1, by decide, by decide, by decide⟩

def noon : Instant := { Instant.startOf today with
  second := 43200, second_lt := by decide, leap := fun h => absurd h (by decide) }

/-- A user with a subscription that charges today and one channel. -/
def store : Store where
  users := ⟨[⟨1, fun _ => .text "ada@example.org"⟩], 1, by simp, by simp⟩
  subscriptions := ⟨[⟨1, fun
    | .userId => .integer 1
    | .name => .text "Music"
    | .billingType => .text BillingType.recurring.tag
    | .nextOccurrence => .text "2026-03-01"
    | .amount => .integer 10
    | .currency => .text "EUR"
    | .enabled => .integer 1
    | _ => .null⟩], 1, by simp, by simp⟩
  policies := .empty
  channels := ⟨[⟨1, fun
    | .userId => .integer 1
    | .channelType => .text ChannelType.ntfy.tag
    | .enabled => .integer 1
    | .config => .text "null"
    | .template => .null⟩], 1, by simp, by simp⟩
  logs := .empty

def engine : Engine := ⟨0, 4, 4, 1000, "\x7b\x7bname\x7d\x7d is due"⟩

/-- A sender that every message reaches. -/
def sender : Sender := fun _ _ _ => ⟨0, .ok ()⟩

end Sample

end Reminders
