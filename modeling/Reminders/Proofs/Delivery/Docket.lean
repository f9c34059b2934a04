import Mathlib.Data.List.Nodup
import Mathlib.Data.List.Perm.Basic
import Reminders.Proofs.Delivery.Share
import Reminders.Proofs.Scheduler.Sequential

/-!
Every job is done once.

A crew may be given several jobs with one key, and its workers may come to record what they have
heard in any order. Each job is sent once, and each leaves an entry, unless it was taken by the
sender and the log says already that its reminder was sent. So which of several jobs with one key is
the one that the log keeps depends on the order of the workers, but not how many there are and what
their rows say about the reminder.

* `Crew.Docket.move`: every move keeps the docket, on which each job is logged, refused or at hand.
* `Crew.Move.remaining`: every move is one of those that remain.
* `Crew.Docket.done`: what the docket says when the crew is done.
* `Crew.does_every_job_once`
-/

namespace Reminders

/-! ### Rows without a time -/

/-- The cells of the row that a job leaves, but for the time, which may be any. -/
def Job.cells (j : Job) (outcome : Except ChannelError Unit) : LogColumn → Cell :=
  (j.entry outcome (.startOf j.notifyDate)).untimed

theorem Job.untimed_entry (j : Job) (outcome : Except ChannelError Unit) (now : Instant) :
    (j.entry outcome now).untimed = j.cells outcome :=
  (congrArg LogEntry.untimed (j.entry_sentAt outcome _ now)).trans (LogEntry.untimed_sentAt _ now)

/-- The cells of a row without its user, in case they say that a reminder was sent. -/
def unnamedWhenSent (cells : LogColumn → Cell) : LogColumn → Cell :=
  if (cells .status).IsText DeliveryStatus.sent.tag then Function.update cells .userId .null
  else cells

/-- What the row of a reminder that was sent says, besides its user, is the key. -/
theorem Job.cells_apply_eq {j j' : Job} (same : j.key = j'.key) {k : LogColumn}
    (other : k ≠ .userId) : j.cells (.ok ()) k = j'.cells (.ok ()) k := by
  have subscription : j.subscriptionId = j'.subscriptionId := congrArg (·.subscriptionId) same
  have type : j.channel.type = j'.channel.type := congrArg (·.channelType) same
  have date : j.notifyDate = j'.notifyDate := congrArg (·.notifyDate) same
  cases k with
  | userId => exact absurd rfl other
  | subscriptionId => exact congrArg Cell.integer subscription
  | channelType => exact congrArg (fun t : ChannelType => Cell.text t.tag) type
  | notifyDate => exact congrArg (fun d : Date => Cell.text d.toText) date
  | status | error | sentAt => rfl

theorem Job.unnamed_cells_eq {j j' : Job} (same : j.key = j'.key) :
    unnamedWhenSent (j.cells (.ok ())) = unnamedWhenSent (j'.cells (.ok ())) := by
  have sent (j : Job) : (j.cells (.ok ()) .status).IsText DeliveryStatus.sent.tag := rfl
  rw [unnamedWhenSent, if_pos (sent j), unnamedWhenSent, if_pos (sent j')]
  funext k
  by_cases user : k = .userId
  · rw [user, Function.update_self, Function.update_self]
  · rw [Function.update_of_ne user, Function.update_of_ne user, cells_apply_eq same user]

theorem Job.cells_eq {j j' : Job} (same : j.key = j'.key) (user : j.userId = j'.userId) :
    j.cells (.ok ()) = j'.cells (.ok ()) := by
  funext k
  by_cases named : k = .userId
  · rw [named]
    exact congrArg Cell.integer user
  · exact cells_apply_eq same named

/-! ### What a crew has still to do -/

/-- At the turn the sender answers for each job as it always does, and the log takes what it is
given unless it has it. -/
structure Turn.Answers (outcome : Job → Except ChannelError Unit) (timeout : Nat) (t : Turn) :
    Prop where
  answers : ∀ job : Job, job.outcome t.sender timeout = outcome job
  keepsLog : t.KeepsLog

namespace Crew

variable {outcome : Job → Except ChannelError Unit} {timeout concurrency : Nat} {t : Turn}
  {jobs logged refused : List Job} {start : World} {c : Crew} {w : World} {a b : Crew × World}

/-- Some turns, at which the sender answers as it always does, lead from one state to another. -/
abbrev Works (outcome : Job → Except ChannelError Unit) (timeout : Nat) :
    Crew × World → Crew × World → Prop :=
  Relation.ReflTransGen fun a b => ∃ t : Turn, t.Answers outcome timeout ∧
    a.1.step timeout t a.2 = some b

/-- The moves that a crew has still to make: a job that waits is taken, called, heard of and
recorded. -/
def remaining (c : Crew) : Nat :=
  4 * c.queue.length + 3 * c.taken.length + 2 * c.asked.length + c.heard.length

/-- **Every move is one of those that remain.** -/
theorem Move.remaining (move : Move timeout t a b) : b.1.remaining + 1 = a.1.remaining := by
  cases move with
  | take | call | hear | record | refuse =>
    simp only [Crew.remaining, held_place, List.length_append, List.length_cons, JobPhase.taken,
      JobPhase.asked, JobPhase.heard, List.length_nil]
    omega

/-- No crew makes moves for ever. -/
theorem not_endless (f : Nat → Crew × World) : ¬∀ n, Leads (step timeout) (f n) (f (n + 1)) := by
  intro endless
  have less : ∀ n, (f n).1.remaining + n = (f 0).1.remaining := by
    intro n
    induction n with
    | zero => rfl
    | succ n ih =>
      obtain ⟨t, stepped⟩ := endless n
      have one : (f (n + 1)).1.remaining + 1 = (f n).1.remaining :=
        (step_eq_some_iff.mp stepped).remaining
      omega
  have := less ((f 0).1.remaining + 1)
  omega

/-- Nobody joins a crew and nobody leaves it. -/
theorem Move.workers (move : Move timeout t a b) : b.1.workers.length = a.1.workers.length := by
  cases move with
  | take | call | hear | record | refuse => simp only [List.length_append, List.length_cons]

/-- A crew that has something to do, and someone to do it, can go on: it is the turn of one of its
workers, whatever the outside gives it. -/
theorem exists_turn (staffed : c.queue ≠ [] → c.workers ≠ []) (busy : ¬c.IsOver) (w : World) :
    ∃ place, ∀ t : Turn, t.jobWorker = place → ∃ b, c.step timeout t w = some b := by
  obtain ⟨queue, workers⟩ := c
  by_cases waiting : ∀ worker ∈ workers, worker.phase = .waiting
  · -- All workers wait, so that the first of them takes a job.
    cases queue with
    | nil => exact absurd ⟨rfl, waiting⟩ busy
    | cons job queue =>
      cases workers with
      | nil => exact absurd rfl (staffed (List.cons_ne_nil job queue))
      | cons worker rest =>
        refine ⟨0, fun t place => ?_⟩
        obtain ⟨phase, stats⟩ := worker
        cases waiting _ List.mem_cons_self
        have first : ([] : List JobWorker).length = t.jobWorker := place.symm
        exact ⟨_, step_eq_some_iff.mpr (.take first)⟩
  · simp only [not_forall] at waiting
    obtain ⟨⟨phase, stats⟩, mem, occupied⟩ := waiting
    obtain ⟨before, after, rfl⟩ := List.append_of_mem mem
    refine ⟨before.length, fun t place => ?_⟩
    cases phase with
    | waiting => exact absurd rfl occupied
    | holding job => exact ⟨_, step_eq_some_iff.mpr (.call place.symm)⟩
    | sending job => exact ⟨_, step_eq_some_iff.mpr (.hear place.symm rfl)⟩
    | sent job outcome =>
      by_cases refused : job.Refused outcome t.desk t.now w.store
      · exact ⟨_, step_eq_some_iff.mpr (.refuse place.symm refused)⟩
      · exact ⟨_, step_eq_some_iff.mpr (.record place.symm refused)⟩

/-! ### What has become of the jobs -/

/-- What has become of the jobs of a crew: the log has taken the entries of some, in this order, and
has refused those of others. The rest is at hand. -/
structure Docket (outcome : Job → Except ChannelError Unit) (jobs : List Job) (start : Store)
    (logged refused : List Job) (c : Crew) (s : Store) : Prop where
  split : (logged ++ refused ++ c.atHand).Perm jobs
  heard : ∀ x ∈ c.heard, x.2 = outcome x.1
  counted : c.stats = (logged.map fun j => .ofOutcome (outcome j) false).sum +
    (refused.map fun j => .ofOutcome (outcome j) true).sum
  rows : ∃ rows, s.logs.rows = start.logs.rows ++ rows ∧
    rows.map Row.untimed = logged.map fun j => j.cells (outcome j)
  others : s = { start with logs := s.logs }
  /-- What was refused had been taken by the sender, and the log said so. -/
  spare : ∀ j ∈ refused, outcome j = .ok () ∧ s.WasSent j.key
  wasSent : ∀ key, s.WasSent key ↔
    start.WasSent key ∨ ∃ j ∈ logged, outcome j = .ok () ∧ j.key = key
  /-- No two rows say of one reminder that it was sent. -/
  once : logged.Pairwise fun i j => outcome i = .ok () → outcome j = .ok () → i.key ≠ j.key
  fresh : ∀ j ∈ logged, outcome j = .ok () → ¬start.WasSent j.key

theorem docket_start (outcome : Job → Except ChannelError Unit) (concurrency : Nat)
    (jobs : List Job) (s : Store) :
    Docket outcome jobs s [] [] (Crew.start concurrency jobs) s := by
  refine ⟨?_, ?_, ?_, ⟨[], (List.append_nil _).symm, rfl⟩, rfl, ?_, ?_, .nil, ?_⟩
  · rw [atHand_start]
    exact .refl jobs
  · rw [(inHand_eq_nil (waiting_start _ _)).2.2]
    exact fun _ mem => absurd mem List.not_mem_nil
  · rw [stats_start]
    rfl
  · exact fun _ mem => absurd mem List.not_mem_nil
  · intro key
    simp only [List.not_mem_nil, false_and, exists_false, or_false]
  · exact fun _ mem => absurd mem List.not_mem_nil

/-- A job that is passed on. -/
theorem Docket.pass {s : Store} {c' : Crew}
    (docket : Docket outcome jobs start.store logged refused c s) (stats : c'.stats = c.stats)
    (atHand : c.atHand.Perm c'.atHand)
    (heard : ∀ x ∈ c'.heard, x ∈ c.heard ∨ x.2 = outcome x.1) :
    Docket outcome jobs start.store logged refused c' s :=
  { docket with
    split := (atHand.symm.append_left _).trans docket.split
    heard := fun x mem => (heard x mem).elim (docket.heard x) id
    counted := stats.trans docket.counted }

/-- A job whose entry the log takes. -/
theorem Docket.log {s : Store} {c' : Crew} {job : Job} {now : Instant}
    (docket : Docket outcome jobs start.store logged refused c s)
    (stats : c'.stats = c.stats + .ofOutcome (outcome job) false)
    (atHand : c.atHand.Perm (job :: c'.atHand)) (heard : ∀ x ∈ c'.heard, x ∈ c.heard)
    (new : outcome job = .ok () → ¬s.WasSent job.key) :
    Docket outcome jobs start.store (logged ++ [job]) refused c'
      (s.logged (job.entry (outcome job) now)) := by
  have sent (key : ReminderKey) : (s.logged (job.entry (outcome job) now)).WasSent key ↔
      s.WasSent key ∨ outcome job = .ok () ∧ job.key = key := by
    rw [Store.wasSent_logged, Job.entry_status_eq_sent_iff, Job.entry_key]
  refine ⟨?_, fun x mem => docket.heard x (heard x mem), ?_, ?_, ?_, ?_, ?_, ?_, ?_⟩
  · refine List.Perm.trans ?_ ((atHand.symm.append_left _).trans docket.split)
    simp only [List.append_assoc, List.singleton_append]
    exact List.perm_middle.symm.append_left logged
  · rw [stats, docket.counted, List.map_append, List.sum_append, List.map_singleton,
      List.sum_singleton, add_right_comm]
  · obtain ⟨rows, same, cells⟩ := docket.rows
    refine ⟨rows ++ [⟨s.logs.nextId, (job.entry (outcome job) now).toCells⟩], ?_, ?_⟩
    · rw [Store.logged_rows, same, List.append_assoc]
    · rw [List.map_append, List.map_append, cells, List.map_singleton, List.map_singleton]
      exact congrArg (_ ++ [·]) (job.untimed_entry (outcome job) now)
  · rw [docket.others]
    rfl
  · intro j mem
    obtain ⟨ok, before⟩ := docket.spare j mem
    exact ⟨ok, (sent j.key).mpr (.inl before)⟩
  · intro key
    rw [sent, docket.wasSent, or_assoc]
    refine or_congr_right ?_
    simp only [List.mem_append, List.mem_singleton, or_and_right, exists_or, exists_eq_left]
  · rw [List.pairwise_append]
    refine ⟨docket.once, List.pairwise_singleton _ _, fun j mem j' mem' ok ok' same => ?_⟩
    cases List.mem_singleton.mp mem'
    exact new ok' ((docket.wasSent _).mpr (.inr ⟨j, mem, ok, same⟩))
  · intro j mem ok before
    rcases List.mem_append.mp mem with mem | mem
    · exact docket.fresh j mem ok before
    · cases List.mem_singleton.mp mem
      exact new ok ((docket.wasSent _).mpr (.inl before))

/-- A job whose entry the log refuses. -/
theorem Docket.refuse {s : Store} {c' : Crew} {job : Job}
    (docket : Docket outcome jobs start.store logged refused c s)
    (stats : c'.stats = c.stats + .ofOutcome (outcome job) true)
    (atHand : c.atHand.Perm (job :: c'.atHand)) (heard : ∀ x ∈ c'.heard, x ∈ c.heard)
    (taken : outcome job = .ok ()) (before : s.WasSent job.key) :
    Docket outcome jobs start.store logged (refused ++ [job]) c' s :=
  { docket with
    split := by
      refine List.Perm.trans (.of_eq ?_) ((atHand.symm.append_left _).trans docket.split)
      simp only [List.append_assoc, List.singleton_append]
    heard := fun x mem => docket.heard x (heard x mem)
    counted := by
      rw [stats, docket.counted, List.map_append, List.sum_append, List.map_singleton,
        List.sum_singleton, add_assoc]
    spare := fun j mem => by
      rcases List.mem_append.mp mem with mem | mem
      · exact docket.spare j mem
      · cases List.mem_singleton.mp mem
        exact ⟨taken, before⟩ }

/-- **Every move keeps the docket.** -/
theorem Docket.move (docket : Docket outcome jobs start.store logged refused a.1 a.2.store)
    (turn : t.Answers outcome timeout) (move : Move timeout t a b) :
    ∃ logged refused, Docket outcome jobs start.store logged refused b.1 b.2.store := by
  rcases move.passes_or_settles with ⟨events, same, -, stats, atHand, heard⟩ |
    ⟨job, result, had, heard, -, atHand, stats, same⟩
  · rw [same]
    refine ⟨logged, refused, docket.pass stats atHand fun x mem => (heard x mem).imp_right ?_⟩
    exact fun answered => answered.trans (turn.answers x.1)
  · obtain rfl : result = outcome job := docket.heard _ had
    rw [same]
    by_cases refusal : job.Refused (outcome job) t.desk t.now a.2.store
    · rw [Job.record_of_refused refusal] at stats ⊢
      obtain ⟨taken, before⟩ := refusal.resolve_left fun kept => kept (turn.keepsLog _)
      exact ⟨logged, refused ++ [job], docket.refuse stats atHand heard taken before⟩
    · rw [Job.record_of_not_refused refusal] at stats ⊢
      refine ⟨logged ++ [job], refused, docket.log stats atHand heard fun taken before => ?_⟩
      exact refusal (.inr ⟨taken, before⟩)

/-- The docket of a crew that has made some moves. -/
theorem exists_docket (works : Works outcome timeout (Crew.start concurrency jobs, start) a) :
    ∃ logged refused, Docket outcome jobs start.store logged refused a.1 a.2.store := by
  induction works with
  | refl => exact ⟨[], [], docket_start outcome concurrency jobs start.store⟩
  | tail _ led ih =>
    obtain ⟨logged, refused, docket⟩ := ih
    obtain ⟨t, turn, stepped⟩ := led
    exact docket.move turn (step_eq_some_iff.mp stepped)

theorem Works.runs (works : Works outcome timeout a b) : Runs (Crew.step timeout) a b :=
  Relation.ReflTransGen.mono (fun _ _ ⟨t, _, stepped⟩ => ⟨t, stepped⟩) a b works

/-! ### When the crew is done -/

theorem isOk_iff {x : Except ChannelError Unit} : x.isOk = true ↔ x = .ok () := by
  cases x with
  | ok u => exact ⟨fun _ => rfl, fun _ => rfl⟩
  | error e => exact ⟨nofun, nofun⟩

theorem sum_ofOutcome (outcome : Job → Except ChannelError Unit) (refused : Bool) (l : List Job) :
    (l.map fun j => DeliveryStats.ofOutcome (outcome j) refused).sum =
      ⟨l.countP fun j => (outcome j).isOk, l.countP fun j => !(outcome j).isOk,
        if refused then l.length else 0⟩ := by
  induction l with
  | nil => cases refused <;> rfl
  | cons j rest ih =>
    rw [List.map_cons, List.sum_cons, ih]
    cases taken : outcome j <;> cases refused <;> ext <;>
      simp [DeliveryStats.ofOutcome, taken, Except.isOk, Except.toBool, Nat.add_comm]

section

variable {s s' : Store} {logged' refused' : List Job} {c' : Crew}

/-- When the crew is done, each job is logged or refused. -/
theorem Docket.split_of_isOver (docket : Docket outcome jobs s logged refused c s')
    (ended : c.IsOver) : (logged ++ refused).Perm jobs := by
  have split := docket.split
  rwa [atHand_eq_nil ended, List.append_nil] at split

/-- Every job that has failed is logged. -/
theorem Docket.failures (docket : Docket outcome jobs s logged refused c s') (ended : c.IsOver) :
    (logged.filter fun j => !(outcome j).isOk).Perm (jobs.filter fun j => !(outcome j).isOk) := by
  have none : (refused.filter fun j => !(outcome j).isOk) = [] := by
    refine List.filter_eq_nil_iff.mpr fun j mem => ?_
    rw [isOk_iff.mpr (docket.spare j mem).1]
    exact Bool.false_ne_true
  have split := (docket.split_of_isOver ended).filter fun j => !(outcome j).isOk
  rwa [List.filter_append, none, List.append_nil] at split

theorem Docket.nodup_keys (docket : Docket outcome jobs s logged refused c s') :
    ((logged.filter fun j => (outcome j).isOk).map Job.key).Nodup := by
  rw [List.Nodup, List.pairwise_map, List.pairwise_filter]
  exact docket.once.imp fun different ok ok' => different (isOk_iff.mp ok) (isOk_iff.mp ok')

/-- **Which keys are logged as sent**: those of jobs that the sender took, unless the log had them
before. -/
theorem Docket.mem_keys_iff (docket : Docket outcome jobs s logged refused c s')
    (ended : c.IsOver) (key : ReminderKey) :
    key ∈ (logged.filter fun j => (outcome j).isOk).map Job.key ↔
      ¬s.WasSent key ∧ ∃ j ∈ jobs, outcome j = .ok () ∧ j.key = key := by
  have split := docket.split_of_isOver ended
  simp only [List.mem_map, List.mem_filter, isOk_iff]
  constructor
  · rintro ⟨j, ⟨mem, taken⟩, rfl⟩
    exact ⟨docket.fresh j mem taken, j, split.mem_iff.mp (List.mem_append_left _ mem), taken, rfl⟩
  · rintro ⟨unsent, j, mem, taken, rfl⟩
    rcases List.mem_append.mp (split.mem_iff.mpr mem) with mem | mem
    · exact ⟨j, ⟨mem, taken⟩, rfl⟩
    · -- It was refused because of another job with its key.
      obtain ⟨other, mem', taken', same⟩ :=
        ((docket.wasSent _).mp (docket.spare j mem).2).resolve_left unsent
      exact ⟨other, ⟨mem', taken'⟩, same⟩

/-- **What does not depend on the order of the workers**: all that the rows say, if it is the same
for jobs with one key. -/
theorem Docket.perm_cells (view : (LogColumn → Cell) → β)
    (docket : Docket outcome jobs s logged refused c s') (ended : c.IsOver) {t' : Store}
    (docket' : Docket outcome jobs s logged' refused' c' t') (ended' : c'.IsOver)
    (alike : ∀ j ∈ jobs, ∀ j' ∈ jobs, outcome j = .ok () → outcome j' = .ok () → j.key = j'.key →
      view (j.cells (.ok ())) = view (j'.cells (.ok ()))) :
    (logged.map fun j => view (j.cells (outcome j))).Perm
      (logged'.map fun j => view (j.cells (outcome j))) := by
  have keys : ((logged.filter fun j => (outcome j).isOk).map Job.key).Perm
      ((logged'.filter fun j => (outcome j).isOk).map Job.key) := by
    refine (List.perm_ext_iff_of_nodup docket.nodup_keys docket'.nodup_keys).mpr fun key => ?_
    rw [docket.mem_keys_iff ended, docket'.mem_keys_iff ended']
  have taken := perm_map_of_keys (f := fun j => view (j.cells (outcome j))) keys
    fun j mem j' mem' same => by
      obtain ⟨mem, ok⟩ := List.mem_filter.mp mem
      obtain ⟨mem', ok'⟩ := List.mem_filter.mp mem'
      rw [isOk_iff] at ok ok'
      rw [ok, ok']
      exact alike j ((docket.split_of_isOver ended).mem_iff.mp (List.mem_append_left _ mem))
        j' ((docket'.split_of_isOver ended').mem_iff.mp (List.mem_append_left _ mem')) ok ok' same
  have failed := ((docket.failures ended).trans (docket'.failures ended').symm).map
    fun j => view (j.cells (outcome j))
  have both := taken.append failed
  rw [← List.map_append, ← List.map_append] at both
  exact ((List.filter_append_perm _ logged).map _).symm.trans
    (both.trans ((List.filter_append_perm _ logged').map _))

/-- Every job is counted once. -/
theorem Docket.stats_eq (docket : Docket outcome jobs s logged refused c s') (ended : c.IsOver) :
    c.stats = ⟨jobs.countP fun j => (outcome j).isOk, jobs.countP fun j => !(outcome j).isOk,
      refused.length⟩ := by
  have split := docket.split_of_isOver ended
  rw [docket.counted, sum_ofOutcome, sum_ofOutcome, ← split.countP_eq, ← split.countP_eq,
    List.countP_append, List.countP_append]
  ext
  · rfl
  · rfl
  · exact Nat.zero_add _

end

/-- What a crew has done with its jobs when it is done: the log has taken the entries of some, in
this order, and has refused those of others. -/
structure Done (outcome : Job → Except ChannelError Unit) (jobs : List Job) (start : World)
    (stats : DeliveryStats) (last : World) (logged refused : List Job) : Prop where
  /-- The sender was called with each job once. -/
  calls : ∃ events, last.events = start.events ++ events ∧ (callsOf events).Perm jobs
  /-- Each job is logged or refused. -/
  split : (logged ++ refused).Perm jobs
  counted : stats = ⟨jobs.countP fun j => (outcome j).isOk, jobs.countP fun j => !(outcome j).isOk,
    refused.length⟩
  total : stats.sent + stats.failed = jobs.length
  rows : ∃ rows, last.store.logs.rows = start.store.logs.rows ++ rows ∧
    rows.map Row.untimed = logged.map fun j => j.cells (outcome j)
  others : last.store = { start.store with logs := last.store.logs }
  /-- Each job that has failed is logged, with the text of its error. -/
  failures : (logged.filter fun j => !(outcome j).isOk).Perm
    (jobs.filter fun j => !(outcome j).isOk)
  texts : ∀ j ∈ logged, ∀ e, outcome j = .error e →
    j.cells (outcome j) .status = .text DeliveryStatus.failed.tag ∧
      j.cells (outcome j) .error = .text (Failure.channel e).message
  /-- Only what the sender has taken is refused. -/
  spare : ∀ j ∈ refused, outcome j = .ok ()
  /-- Of the jobs with a key that the sender has taken, one is logged, if the log did not say before
  that it was sent. Otherwise none is. -/
  one : ∀ key, (∃ j ∈ jobs, outcome j = .ok () ∧ j.key = key) → ¬start.store.WasSent key →
    ((logged.filter fun j => (outcome j).isOk).map Job.key).count key = 1
  none : ∀ key, start.store.WasSent key →
    ((logged.filter fun j => (outcome j).isOk).map Job.key).count key = 0

theorem Works.done (works : Works outcome timeout (Crew.start concurrency jobs, start) (c, w))
    (ended : c.IsOver) (docket : Docket outcome jobs start.store logged refused c w.store) :
    Done outcome jobs start c.stats w logged refused := by
  obtain ⟨events, _, account⟩ := exists_progress works.runs
  have keys := docket.mem_keys_iff ended
  refine
    { calls := ⟨events, account.events_eq, account.callsOf_perm ended⟩
      split := docket.split_of_isOver ended
      counted := docket.stats_eq ended
      total := account.sent_add_failed ended
      rows := docket.rows
      others := docket.others
      failures := docket.failures ended
      texts := fun j _ e failed => by
        rw [failed]
        exact ⟨rfl, rfl⟩
      spare := fun j mem => (docket.spare j mem).1
      one := fun key taken unsent =>
        List.count_eq_one_of_mem docket.nodup_keys ((keys key).mpr ⟨unsent, taken⟩)
      none := fun key sent => List.count_eq_zero.mpr fun mem => ((keys key).mp mem).1 sent }

/-- **The order of the workers shows in the users of the rows** of reminders that were sent, if it
shows at all. -/
theorem Works.alike {concurrency' : Nat} {c' : Crew} {w' : World}
    (works : Works outcome timeout (Crew.start concurrency jobs, start) (c, w)) (ended : c.IsOver)
    (works' : Works outcome timeout (Crew.start concurrency' jobs, start) (c', w'))
    (ended' : c'.IsOver) :
    c.stats = c'.stats ∧
      ((start.store.logSince w.store).map unnamedWhenSent).Perm
        ((start.store.logSince w'.store).map unnamedWhenSent) ∧
      ((∀ j ∈ jobs, ∀ j' ∈ jobs, outcome j = .ok () → outcome j' = .ok () → j.key = j'.key →
          j.userId = j'.userId) →
        (start.store.logSince w.store).Perm (start.store.logSince w'.store)) := by
  obtain ⟨logged, refused, docket⟩ := exists_docket works
  obtain ⟨logged', refused', docket'⟩ := exists_docket works'
  obtain ⟨rows, same, cells⟩ := docket.rows
  obtain ⟨rows', same', cells'⟩ := docket'.rows
  have since : start.store.logSince w.store = logged.map fun j => j.cells (outcome j) := by
    rw [Store.logSince, same, List.drop_left, cells]
  have since' : start.store.logSince w'.store = logged'.map fun j => j.cells (outcome j) := by
    rw [Store.logSince, same', List.drop_left, cells']
  have unnamed := docket.perm_cells unnamedWhenSent ended docket' ended'
    fun _ _ _ _ _ _ same => Job.unnamed_cells_eq same
  refine ⟨?_, ?_, fun named => ?_⟩
  · have more := unnamed.length_eq
    have all := (docket.split_of_isOver ended).length_eq
    have all' := (docket'.split_of_isOver ended').length_eq
    simp only [List.length_map, List.length_append] at more all all'
    rw [docket.stats_eq ended, docket'.stats_eq ended',
      show refused.length = refused'.length by omega]
  · rw [since, since', List.map_map, List.map_map]
    exact unnamed
  · rw [since, since']
    exact docket.perm_cells id ended docket' ended' fun j mem j' mem' ok ok' same =>
      Job.cells_eq same (named j mem j' mem' ok ok' same)

/-- A crew whose jobs wait has someone to take them. -/
theorem Works.staffed (works : Works outcome timeout (Crew.start concurrency jobs, start) a)
    (waits : a.1.queue ≠ []) : a.1.workers ≠ [] := by
  have workers : a.1.workers.length = min jobs.length (max concurrency 1) := by
    clear waits
    induction works with
    | refl => exact List.length_replicate
    | tail _ led ih =>
      obtain ⟨t, -, stepped⟩ := led
      exact (step_eq_some_iff.mp stepped).workers.trans ih
  obtain ⟨events, _, account⟩ := exists_progress works.runs
  have some : 0 < jobs.length := by
    rw [← account.calls.length_eq, uncalled, List.length_append, List.length_append]
    exact Nat.add_pos_right _ (Nat.add_pos_right _ (List.length_pos_of_ne_nil waits))
  refine List.ne_nil_of_length_pos ?_
  rw [workers]
  omega

/-- **Every job is done once.** Let the sender answer for each job as it always does, and let the
log take every entry that it does not have. Whatever the jobs, which may share keys, the number of
workers and what the log said before, and whoever takes the turns: the crew comes to its end,
because it cannot go on for ever and can go on until all is done; each job is sent once and counted
once; each failure is logged with its text; of the jobs with one key that the sender took, one is
logged, if none was before, and the others are counted as errors of the log; and the counts and the
new rows are the same for all numbers of workers and all orders, but for ids, times and, among jobs
of several users with one key, the user in the row of the one that is logged. What is done with one
job after the other is one of these. -/
theorem does_every_job_once (outcome : Job → Except ChannelError Unit) (timeout concurrency : Nat)
    (jobs : List Job) (w : World) :
    (∀ f : Nat → Crew × World, ¬∀ n, Leads (Crew.step timeout) (f n) (f (n + 1))) ∧
    (∀ c v, Works outcome timeout (Crew.start concurrency jobs, w) (c, v) → ¬c.IsOver →
      ∃ place, ∀ t : Turn, t.jobWorker = place → ∃ b, c.step timeout t v = some b) ∧
    (∀ c v, Works outcome timeout (Crew.start concurrency jobs, w) (c, v) → c.IsOver →
      ∃ logged refused, Done outcome jobs w c.stats v logged refused) ∧
    (∀ concurrency' c c' v v', Works outcome timeout (Crew.start concurrency jobs, w) (c, v) →
      Works outcome timeout (Crew.start concurrency' jobs, w) (c', v') → c.IsOver → c'.IsOver →
        c.stats = c'.stats ∧
        ((w.store.logSince v.store).map unnamedWhenSent).Perm
          ((w.store.logSince v'.store).map unnamedWhenSent) ∧
        ((∀ j ∈ jobs, ∀ j' ∈ jobs, outcome j = .ok () → outcome j' = .ok () → j.key = j'.key →
            j.userId = j'.userId) →
          (w.store.logSince v.store).Perm (w.store.logSince v'.store))) ∧
    ∀ p : Pool, p.timeout = timeout → (∀ job : Job, job.outcome p.sender timeout = outcome job) →
      (∀ entry, p.desk (.insertLog entry) = none) →
        ∃ c v, Works outcome timeout (Crew.start concurrency jobs, w) (c, v) ∧ c.IsOver ∧
          c.stats = (p.run w.store jobs).1 ∧ v.store = (p.run w.store jobs).2 := by
  refine ⟨not_endless, ?_, ?_, ?_, ?_⟩
  · exact fun c v works busy => exists_turn works.staffed busy v
  · intro c v works ended
    obtain ⟨logged, refused, docket⟩ := exists_docket works
    exact ⟨logged, refused, works.done ended docket⟩
  · exact fun _ c c' v v' works works' ended ended' => works.alike ended works' ended'
  · rintro p rfl answers keepsLog
    obtain ⟨c, events, ran, ended, stats, -⟩ := Crew.runs_start p concurrency jobs w
    refine ⟨c, ⟨_, events⟩, ?_, ended, stats, rfl⟩
    have turn : (Turn.first p.sender p.desk p.now).Answers outcome p.timeout := ⟨answers, keepsLog⟩
    exact Relation.ReflTransGen.mono (fun _ _ stepped => ⟨_, turn, stepped⟩) _ _ ran

end Crew

namespace Sample

/-- A reminder of a subscription, in the name of a user. -/
def notice (user : Int) (message : String) : Job :=
  ⟨1, user, ⟨1, user, .ntfy, true, .null, none⟩, today, message, ""⟩

/-- A pool whose sender loses one message. -/
def losing : Pool where
  sender := fun _ message _ => ⟨0, if message = "lost" then .error (.timedOut 1) else .ok ()⟩
  timeout := 1000
  desk := .open
  now := noon

/-- A reminder that comes twice, and one that is lost. -/
def notices : List Job := [notice 1 "Music", notice 1 "lost", notice 1 "Music again"]

end Sample

namespace Crew

/-- Of three jobs with one key two are sent and one is lost. One of the two is logged, and the log
is the same with one worker and with three. -/
theorem does_every_job_once_sample :
    ∃ c c' v v', Works (·.outcome Sample.losing.sender 1000) 1000
        (Crew.start 1 Sample.notices, ⟨.empty, []⟩) (c, v) ∧
      Works (·.outcome Sample.losing.sender 1000) 1000
        (Crew.start 3 Sample.notices, ⟨.empty, []⟩) (c', v') ∧
      c.stats = ⟨2, 1, 1⟩ ∧ c'.stats = ⟨2, 1, 1⟩ ∧
      (Store.logSince .empty v.store).Perm (Store.logSince .empty v'.store) ∧
      ∃ logged refused, Done (·.outcome Sample.losing.sender 1000) Sample.notices ⟨.empty, []⟩
        ⟨2, 1, 1⟩ v logged refused := by
  have stats : (Sample.losing.run .empty Sample.notices).1 = ⟨2, 1, 1⟩ := by decide +kernel
  have one (concurrency : Nat) := does_every_job_once (·.outcome Sample.losing.sender 1000) 1000
    concurrency Sample.notices ⟨.empty, []⟩
  obtain ⟨c, v, works, ended, counted, -⟩ :=
    (one 1).2.2.2.2 Sample.losing rfl (fun _ => rfl) fun _ => rfl
  obtain ⟨c', v', works', ended', counted', -⟩ :=
    (one 3).2.2.2.2 Sample.losing rfl (fun _ => rfl) fun _ => rfl
  obtain ⟨logged, refused, done⟩ := (one 1).2.2.1 c v works ended
  rw [counted, stats] at done
  refine ⟨c, c', v, v', works, works', counted.trans stats, counted'.trans stats, ?_, logged,
    refused, done⟩
  refine ((one 1).2.2.2.1 3 c c' v v' works works' ended ended').2.2 ?_
  intro j mem j' mem' _ _ _
  have mine : ∀ j ∈ Sample.notices, j.userId = 1 := by decide
  rw [mine j mem, mine j' mem']

/-! ### Jobs of several users -/

/-- Takes some turns, one after the other. -/
def play (timeout : Nat) : List Turn → Crew × World → Option (Crew × World)
  | [], a => some a
  | t :: rest, a => (a.1.step timeout t a.2).bind (play timeout rest)

theorem works_of_play {turns : List Turn} {a b : Crew × World}
    (answers : ∀ t ∈ turns, t.Answers outcome timeout) (played : play timeout turns a = some b) :
    Works outcome timeout a b := by
  induction turns generalizing a with
  | nil =>
    cases played
    exact .refl
  | cons t rest ih =>
    obtain ⟨first, later⟩ := List.forall_mem_cons.mp answers
    obtain ⟨a', stepped, played⟩ := Option.bind_eq_some_iff.mp played
    exact .head ⟨t, first, stepped⟩ (ih later played)

end Crew

namespace Sample

/-- A turn of a worker, at which every message reaches its reader. -/
def turnOf (worker : Nat) : Turn := ⟨0, worker, sender, .open, noon⟩

/-- The reminder of one subscription in the names of two users. -/
def doubled : List Job := [notice 1 "Music", notice 2 "Music"]

/-- What comes of it at the turns of some workers: whether all is done, and for each new row whether
it names the first of the users. -/
def namesFirst (workers : List Nat) : Option (Bool × List Bool) :=
  (Crew.play 1000 (workers.map turnOf) (Crew.start 2 doubled, ⟨.empty, []⟩)).map fun b =>
    (decide b.1.IsOver,
      (Store.logSince .empty b.2.store).map fun cells => decide ((cells .userId).IsInt 1))

end Sample

namespace Crew

/-- **The user in the row depends on the order of the workers**, when users share a key: the log
keeps the job of the worker that is the first to record. -/
theorem sent_row_depends_on_turns :
    ¬∀ (outcome : Job → Except ChannelError Unit) (timeout concurrency : Nat) (jobs : List Job)
      (w : World) (c c' : Crew) (v v' : World),
      Works outcome timeout (Crew.start concurrency jobs, w) (c, v) →
      Works outcome timeout (Crew.start concurrency jobs, w) (c', v') → c.IsOver → c'.IsOver →
        (w.store.logSince v.store).Perm (w.store.logSince v'.store) := by
  intro same
  have ends {workers : List Nat} {named : List Bool}
      (names : Sample.namesFirst workers = some (true, named)) :
      ∃ c v, Works (·.outcome Sample.sender 1000) 1000
        (Crew.start 2 Sample.doubled, ⟨.empty, []⟩) (c, v) ∧ c.IsOver ∧
          (Store.logSince .empty v.store).map (fun cells => decide ((cells .userId).IsInt 1)) =
            named := by
    obtain ⟨⟨c, v⟩, played, facts⟩ := Option.map_eq_some_iff.mp names
    obtain ⟨ended, named⟩ := Prod.mk.inj facts
    refine ⟨c, v, works_of_play (fun t mem => ?_) played, of_decide_eq_true ended, named⟩
    obtain ⟨worker, -, rfl⟩ := List.mem_map.mp mem
    exact ⟨fun _ => rfl, fun _ => rfl⟩
  have first : Sample.namesFirst [0, 1, 0, 1, 0, 1, 0, 1] = some (true, [true]) := by decide +kernel
  have second : Sample.namesFirst [0, 1, 0, 1, 0, 1, 1, 0] = some (true, [false]) := by decide +kernel
  obtain ⟨c, v, works, ended, names⟩ := ends first
  obtain ⟨c', v', works', ended', names'⟩ := ends second
  have rows := (same _ 1000 2 Sample.doubled ⟨.empty, []⟩ c c' v v' works works' ended ended').map
    fun cells => decide ((cells .userId).IsInt 1)
  rw [names, names'] at rows
  cases List.singleton_perm.mp rows

end Crew

end Reminders
