import Reminders.Proofs.Delivery.Ledger
import Reminders.Proofs.Scheduler.Readiness
import Reminders.Proofs.Scheduler.Round

/-!
What the runs of a tick have in hand.

The runs of a tick are for different users, so no two of them are about one subscription. What a run
has found before it sends is not undone by the others, and from then on its keys are open to nobody
else.

* `UserTask.Ledger.step`: a step of one run, beside the others.
* `Round.Ledger.move`: a move of a tick.
-/

namespace Reminders

open Store

namespace UserTask

/-- The keys that the sender may still take, once they are known. -/
def openKeys : UserTask → List ReminderKey
  | .dispatching _ crew => crew.openKeys
  | _ => []

/-- The keys that the sender has taken and that are not recorded. -/
def pendingKeys : UserTask → List ReminderKey
  | .dispatching _ crew => crew.pendingKeys
  | _ => []

/-- What a run relies on and what the others do not undo: before the jobs are known, that they will
be ready, and from then on that they are about subscriptions of the user. The log has refused
nothing. -/
def Sound (user : Int) (s : Store) : UserTask → Prop
  | .preparing work => work.OnlyCalls StoreCall.ReadsOrMoves ∧
      work.Ensures (Undisturbed user) (Preparation.Ready user) s
  | .dispatching _ crew =>
      (∀ job ∈ crew.atHand, s.Owns user job.subscriptionId) ∧ crew.stats.logErrors = 0
  | .finished result => ∀ report, result = .ok report → report.delivery.logErrors = 0

theorem sound_start (e : Engine) (user : Int) (today : Date) (s : Store) :
    (start e user today).Sound user s :=
  ⟨Script.onlyCalls_prepare _ user today, Script.prepare_ensures _ user today s⟩

theorem Sound.undisturbed {task : UserTask} {user : Int} {s s' : Store} (sound : task.Sound user s)
    (others : Undisturbed user s s') : task.Sound user s' := by
  cases task with
  | preparing work => exact ⟨sound.1, sound.2.stable others⟩
  | dispatching p crew => exact ⟨fun job mem => others.owns (sound.1 job mem), sound.2⟩
  | finished result => exact sound

/-- The keys in hand are about subscriptions of the user. -/
theorem Sound.owns {task : UserTask} {user : Int} {s : Store} (sound : task.Sound user s)
    {key : ReminderKey} (mem : key ∈ task.openKeys ++ task.pendingKeys) :
    s.Owns user key.subscriptionId := by
  cases task with
  | preparing work => exact absurd mem List.not_mem_nil
  | finished result => exact absurd mem List.not_mem_nil
  | dispatching p crew =>
    obtain ⟨job, atHand, rfl⟩ := Crew.exists_of_mem_keys mem
    exact sound.1 job atHand

/-- What the run of a user has in hand, beside others who have `opened` and `pending` of each key. -/
structure Ledger (user : Int) (opened pending : ReminderKey → Nat) (task : UserTask)
    (world : World) : Prop where
  sound : task.Sound user world.store
  balanced : world.Balanced (fun key => task.openKeys.count key + opened key)
    fun key => task.pendingKeys.count key + pending key

section

variable {user : Int} {opened pending : ReminderKey → Nat} {world : World}

theorem ledger_dispatching_iff {p : Preparation} {crew : Crew} :
    Ledger user opened pending (.dispatching p crew) world ↔
      crew.Ledger user opened pending world :=
  ⟨fun ⟨⟨owned, clean⟩, balanced⟩ => ⟨⟨clean, balanced⟩, owned⟩,
    fun ⟨⟨clean, balanced⟩, owned⟩ => ⟨⟨owned, clean⟩, balanced⟩⟩

/-- A run whose jobs are known starts to send. -/
theorem Ledger.dispatch {p : Preparation} (concurrency : Nat)
    (ledger : Ledger user opened pending (.preparing (.done p)) world)
    (apart : ∀ key, world.store.Owns user key.subscriptionId → opened key = 0 ∧ pending key = 0) :
    Ledger user opened pending (.dispatching p (.start concurrency p.jobs)) world := by
  obtain ⟨⟨-, ensured⟩, balanced⟩ := ledger
  obtain ⟨distinct, owned, unsent⟩ := ensured world.store (refl_of _ _)
  simp only [openKeys, pendingKeys, List.count_nil, Nat.zero_add] at balanced
  refine ledger_dispatching_iff.mpr (Crew.ledger_start concurrency owned distinct balanced ?_)
  intro key mem
  obtain ⟨job, known, rfl⟩ := List.mem_map.mp mem
  obtain ⟨noneOpened, nonePending⟩ := apart job.key (owned job known)
  have counted := balanced.counted job.key
  have unsent := unsent job known
  rw [wasSent_iff_sentCount_pos] at unsent
  omega

/-- **A step of one run keeps the ledger**, and disturbs no other user. -/
theorem Ledger.step {e : Engine} {t : Turn} {task task' : UserTask} {world' : World}
    (ledger : Ledger user opened pending task world) (keepsLog : t.KeepsLog)
    (apart : ∀ key, world.store.Owns user key.subscriptionId → opened key = 0 ∧ pending key = 0)
    (stepped : task.step e t world = some (task', world')) :
    Ledger user opened pending task' world' ∧
      ∀ other, other ≠ user → Undisturbed other world.store world'.store := by
  cases step_eq_some_iff.mp stepped with
  | answer served =>
    obtain ⟨⟨only, ensured⟩, balanced⟩ := ledger
    have answered := answer_eq_of_serve_eq_ok served
    have same := (sameButDates_of_answer only.1 answered).sameLog
    refine ⟨⟨⟨only.2 _, ?_⟩, balanced.sameLog same⟩, fun other _ => same.undisturbed other⟩
    exact (ensured world.store (refl_of _ _) _ _ answered).2
  | refuse => exact ⟨⟨by rintro _ ⟨⟩, ledger.balanced⟩, fun other _ => refl_of _ _⟩
  | fail => exact ⟨⟨by rintro _ ⟨⟩, ledger.balanced⟩, fun other _ => refl_of _ _⟩
  | dispatch => exact ⟨ledger.dispatch e.jobConcurrency apart, fun other _ => refl_of _ _⟩
  | deliver busy move =>
    obtain ⟨ledger, undisturbed⟩ := (ledger_dispatching_iff.mp ledger).move move keepsLog
    exact ⟨ledger_dispatching_iff.mpr ledger, undisturbed⟩
  | report ended =>
    refine ⟨⟨?_, ?_⟩, fun other _ => refl_of _ _⟩
    · rintro report ⟨⟩
      exact ledger.sound.2
    · have balanced := ledger.balanced
      simpa only [openKeys, pendingKeys, Crew.keys_eq_nil ended] using balanced

end

end UserTask

namespace UserWorker

/-- The keys that the sender may still take, of the run at hand. -/
def openKeys (w : UserWorker) : List ReminderKey := w.task.elim [] fun held => held.2.openKeys

/-- The keys that the sender has taken and that are not recorded, of the run at hand. -/
def pendingKeys (w : UserWorker) : List ReminderKey := w.task.elim [] fun held => held.2.pendingKeys

end UserWorker

namespace Round

/-- The keys that the sender may still take. -/
def openKeys (r : Round) : List ReminderKey := r.workers.flatMap UserWorker.openKeys

/-- The keys that the sender has taken and that are not recorded. -/
def pendingKeys (r : Round) : List ReminderKey := r.workers.flatMap UserWorker.pendingKeys

/-- What a tick has in hand. -/
structure Ledger (r : Round) (world : World) : Prop where
  sound : ∀ w ∈ r.workers, ∀ user task, w.task = some (user, task) → task.Sound user world.store
  /-- No two runs are for one user. -/
  distinct : (r.held ++ r.queue).Nodup
  clean : ∀ w ∈ r.workers, w.report.totals.delivery.logErrors = 0
  balanced : world.Balanced (r.openKeys.count ·) (r.pendingKeys.count ·)

/-- Idle workers have no key in hand. -/
theorem keys_eq_nil {r : Round} (idle : ∀ w ∈ r.workers, w.task = none) :
    r.openKeys = [] ∧ r.pendingKeys = [] := by
  constructor
  · apply List.flatMap_eq_nil_iff.mpr
    intro w mem
    rw [UserWorker.openKeys, idle w mem]
    rfl
  · apply List.flatMap_eq_nil_iff.mpr
    intro w mem
    rw [UserWorker.pendingKeys, idle w mem]
    rfl

/-- The ledger of a tick for different users. -/
theorem ledger_start (e : Engine) {users : List Int} {world : World} (distinct : users.Nodup)
    (balanced : world.Balanced (fun _ => 0) fun _ => 0) : (start e users).Ledger world := by
  have idle := idle_start e users
  obtain ⟨openKeys, pendingKeys⟩ := keys_eq_nil idle
  refine ⟨?_, ?_, ?_, ?_⟩
  · intro w mem user task holds
    rw [idle w mem] at holds
    cases holds
  · rw [held_eq_nil idle]
    exact distinct
  · intro w mem
    rw [eq_fresh_of_mem_start mem]
    rfl
  · rwa [openKeys, pendingKeys]

/-- When a tick is over nothing is in hand. -/
theorem Ledger.balanced_of_isOver {r : Round} {world : World} (ledger : r.Ledger world)
    (ended : r.IsOver) : world.Balanced (fun _ => 0) fun _ => 0 := by
  obtain ⟨openKeys, pendingKeys⟩ := keys_eq_nil ended.2
  have balanced := ledger.balanced
  rwa [openKeys, pendingKeys] at balanced

section

variable {e : Engine} {today : Date} {t : Turn} {users queue : List Int} {user : Int}
  {before after : List UserWorker} {report : TickReport} {task : UserTask} {world : World}
  {finished : List (Int × Except Failure UserReport)}

/-- The other workers hold other users. -/
theorem Ledger.ne_of_mem
    (ledger : Ledger ⟨users, queue, before ++ ⟨some (user, task), report⟩ :: after, finished⟩ world)
    {w : UserWorker} (mem : w ∈ before ++ after) {other : Int} {task' : UserTask}
    (holds : w.task = some (other, task')) : other ≠ user := by
  rintro rfl
  have once := List.nodup_iff_count_le_one.mp (List.nodup_append.mp ledger.distinct).1 other
  have twice : 0 < ((before ++ after).flatMap fun w => (w.task.map Prod.fst).toList).count other :=
    List.count_pos_iff.mpr (List.mem_flatMap.mpr ⟨w, mem, by rw [holds]; exact List.mem_cons_self⟩)
  rw [held, count_flatMap_place, Option.map_some, Option.toList_some,
    List.count_singleton_self] at once
  omega

/-- The other workers have no key in hand that is about a subscription of the user. -/
theorem Ledger.apart
    (ledger : Ledger ⟨users, queue, before ++ ⟨some (user, task), report⟩ :: after, finished⟩ world)
    {key : ReminderKey} (owns : world.store.Owns user key.subscriptionId) :
    ((before ++ after).flatMap UserWorker.openKeys).count key = 0 ∧
      ((before ++ after).flatMap UserWorker.pendingKeys).count key = 0 := by
  have none : ∀ w ∈ before ++ after, key ∉ w.openKeys ++ w.pendingKeys := by
    rintro ⟨_ | ⟨other, task'⟩, report'⟩ mem inHand
    · exact absurd inHand List.not_mem_nil
    · have sound := ledger.sound _ (mem_place_iff.mpr (.inr mem)) other task' rfl
      exact ledger.ne_of_mem mem rfl ((sound.owns inHand).eq owns)
  constructor <;> refine List.count_eq_zero.mpr fun mem => ?_
  · obtain ⟨w, mem, inHand⟩ := List.mem_flatMap.mp mem
    exact none w mem (List.mem_append_left _ inHand)
  · obtain ⟨w, mem, inHand⟩ := List.mem_flatMap.mp mem
    exact none w mem (List.mem_append_right _ inHand)

/-- The ledger of a tick in which one worker has done something. -/
theorem Ledger.put {w w' : UserWorker} {queue' : List Int} {world' : World}
    {finished' : List (Int × Except Failure UserReport)}
    (ledger : Ledger ⟨users, queue, before ++ w :: after, finished⟩ world)
    (sound : ∀ user task, w'.task = some (user, task) → task.Sound user world'.store)
    (others : ∀ w ∈ before ++ after, ∀ other task, w.task = some (other, task) →
      Undisturbed other world.store world'.store)
    (distinct : (held ⟨users, queue', before ++ w' :: after, finished'⟩ ++ queue').Nodup)
    (clean : w'.report.totals.delivery.logErrors = 0)
    (balanced : world'.Balanced
      (fun key => w'.openKeys.count key + ((before ++ after).flatMap UserWorker.openKeys).count key)
      fun key => w'.pendingKeys.count key +
        ((before ++ after).flatMap UserWorker.pendingKeys).count key) :
    Ledger ⟨users, queue', before ++ w' :: after, finished'⟩ world' := by
  refine ⟨?_, distinct, ?_, ?_⟩
  · intro v mem user task holds
    rcases mem_place_iff.mp mem with rfl | mem
    · exact sound user task holds
    · have kept := ledger.sound v (mem_place_iff.mpr (.inr mem)) user task holds
      exact kept.undisturbed (others v mem user task holds)
  · intro v mem
    rcases mem_place_iff.mp mem with rfl | mem
    · exact clean
    · exact ledger.clean v (mem_place_iff.mpr (.inr mem))
  · simpa only [openKeys, pendingKeys, count_flatMap_place] using balanced

/-- The balance of a tick, as one worker sees it. -/
theorem Ledger.balanced_place {w : UserWorker}
    (ledger : Ledger ⟨users, queue, before ++ w :: after, finished⟩ world) : world.Balanced
      (fun key => w.openKeys.count key + ((before ++ after).flatMap UserWorker.openKeys).count key)
      fun key => w.pendingKeys.count key +
        ((before ++ after).flatMap UserWorker.pendingKeys).count key := by
  simpa only [openKeys, pendingKeys, count_flatMap_place] using ledger.balanced

theorem Ledger.take
    (ledger : Ledger ⟨users, user :: queue, before ++ ⟨none, report⟩ :: after, finished⟩ world) :
    Ledger ⟨users, queue, before ++ ⟨some (user, .start e user today), report⟩ :: after, finished⟩
      world := by
  refine ledger.put ?_ (fun _ _ _ _ _ => refl_of _ _) ?_ ?_ ledger.balanced_place
  · rintro _ _ ⟨⟩
    exact UserTask.sound_start e user today world.store
  · refine (List.perm_iff_count.mpr fun u => ?_).nodup_iff.mp ledger.distinct
    simp only [held_place, List.count_append, List.count_cons, Option.map_none, Option.map_some,
      Option.toList_none, Option.toList_some, List.count_nil]
    omega
  · have clean := ledger.clean _ List.mem_append_cons_self
    exact clean

/-- A worker goes on with the run at hand. -/
theorem Ledger.work {task' : UserTask} {world' : World}
    (ledger : Ledger ⟨users, queue, before ++ ⟨some (user, task), report⟩ :: after, finished⟩ world)
    (keepsLog : t.KeepsLog) (stepped : task.step e t world = some (task', world')) :
    Ledger ⟨users, queue, before ++ ⟨some (user, task'), report⟩ :: after, finished⟩ world' := by
  have sound := ledger.sound _ List.mem_append_cons_self user task rfl
  have clean := ledger.clean _ List.mem_append_cons_self
  obtain ⟨⟨sound', balanced⟩, undisturbed⟩ := UserTask.Ledger.step ⟨sound, ledger.balanced_place⟩
    keepsLog (fun _ owns => ledger.apart owns) stepped
  refine ledger.put ?_ ?_ ?_ clean balanced
  · rintro _ _ ⟨⟩
    exact sound'
  · exact fun w mem other task holds => undisturbed other (ledger.ne_of_mem mem holds)
  · have distinct := ledger.distinct
    rwa [held_place] at distinct ⊢

/-- A finished run adds no error to the report of its worker. -/
theorem Ledger.finish {result : Except Failure UserReport}
    (ledger : Ledger
      ⟨users, queue, before ++ ⟨some (user, .finished result), report⟩ :: after, finished⟩ world) :
    Ledger ⟨users, queue, before ++ ⟨none, report.absorb result⟩ :: after,
      finished ++ [(user, result)]⟩ world := by
  have clean := ledger.clean _ List.mem_append_cons_self
  have sound := ledger.sound _ List.mem_append_cons_self user (.finished result) rfl
  refine ledger.put (fun _ _ holds => nomatch holds) (fun _ _ _ _ _ => refl_of _ _) ?_ ?_
    ledger.balanced_place
  · refine ledger.distinct.sublist (List.Sublist.append_right ?_ queue)
    rw [held_place, held_place]
    exact (List.Sublist.append_right (List.nil_sublist _) _).append_left _
  · cases result with
    | ok more =>
      rw [TickReport.absorb, UserReport.add_def, DeliveryStats.add_logErrors, clean, sound more rfl]
    | error failure => exact clean

end

/-- **Every move of a tick keeps the ledger.** -/
theorem Ledger.move {e : Engine} {today : Date} {t : Turn} {a b : Round × World}
    (ledger : a.1.Ledger a.2) (keepsLog : t.KeepsLog) (move : Move e today t a b) :
    b.1.Ledger b.2 := by
  cases move with
  | take => exact ledger.take
  | work _ stepped => exact ledger.work keepsLog stepped
  | finish => exact ledger.finish

/-- The log has refused nothing. -/
theorem Ledger.logErrors_eq_zero {r : Round} {world : World} (ledger : r.Ledger world) :
    r.report.totals.delivery.logErrors = 0 := by
  have none : ∀ reports : List UserReport, (∀ report ∈ reports, report.delivery.logErrors = 0) →
      reports.sum.delivery.logErrors = 0 := by
    intro reports clean
    induction reports with
    | nil => rfl
    | cons report rest ih =>
      obtain ⟨first, later⟩ := List.forall_mem_cons.mp clean
      rw [List.sum_cons, UserReport.add_def, DeliveryStats.add_logErrors, first, ih later]
  rw [report_eq]
  apply none
  intro report mem
  obtain ⟨w, worker, rfl⟩ := List.mem_map.mp mem
  exact ledger.clean w worker

end Round

end Reminders
