import Reminders.Proofs.Delivery.AtHand
import Reminders.Proofs.Store.Undisturbed

/-!
Who has a key in hand.

A reminder that may still be sent is open, and one that the sender has taken is pending until the
log has its row. `World.Balanced` says that no two workers share a key: each key was taken once or
is open once, and not both.

* `Crew.Keys.move`: every move keeps the keys in balance, and the log refuses nothing.
* `Crew.Ledger.move`: every move keeps the ledger.
* `Crew.ledger_start`: the ledger of a crew whose jobs are new.
-/

namespace Reminders

/-- The keys of the reminders that were taken, among answers of the sender. -/
def takenAmong (answers : List (Job × Except ChannelError Unit)) : List ReminderKey :=
  answers.filterMap fun
    | (job, .ok _) => some job.key
    | (_, .error _) => none

@[simp] theorem takenAmong_append (a b : List (Job × Except ChannelError Unit)) :
    takenAmong (a ++ b) = takenAmong a ++ takenAmong b :=
  List.filterMap_append

@[simp] theorem takenAmong_ok (job : Job) (u : Unit) : takenAmong [(job, .ok u)] = [job.key] := rfl

@[simp] theorem takenAmong_error (job : Job) (e : ChannelError) :
    takenAmong [(job, .error e)] = [] := rfl

theorem count_takenAmong_le (job : Job) (outcome : Except ChannelError Unit) (key : ReminderKey) :
    (takenAmong [(job, outcome)]).count key ≤ [job.key].count key := by
  cases outcome with
  | ok u => exact Nat.le_refl _
  | error e => exact Nat.zero_le _

/-- The row of an answer says that a reminder was sent when it was taken. -/
theorem Store.sentCount_entry (s : Store) (job : Job) (outcome : Except ChannelError Unit)
    (now : Instant) (key : ReminderKey) :
    (s.logged (job.entry outcome now)).sentCount key =
      s.sentCount key + (takenAmong [(job, outcome)]).count key := by
  simp only [sentCount_logged, Job.entry_status_eq_sent_iff, Job.entry_key]
  cases outcome with
  | ok u => simp [List.count_singleton]
  | error e => simp

/-- The keys of the reminders that the sender has taken, in order. -/
def takenKeys (events : List Event) : List ReminderKey := takenAmong (answersOf events)

/-- What was taken is in the log or pending, and a key is taken or open, and once. -/
structure World.Balanced (opened pending : ReminderKey → Nat) (world : World) : Prop where
  counted : ∀ key, world.store.sentCount key + pending key = (takenKeys world.events).count key
  once : ∀ key, (takenKeys world.events).count key + opened key ≤ 1

theorem World.Balanced.sameLog {opened pending : ReminderKey → Nat} {world : World} {s : Store}
    (balanced : world.Balanced opened pending) (same : world.store.SameLog s) :
    World.Balanced opened pending { world with store := s } where
  counted key := by rw [same.sentCount]; exact balanced.counted key
  once := balanced.once

namespace Crew

/-- The keys that the sender may still take. -/
def openKeys (c : Crew) : List ReminderKey := (c.uncalled ++ c.asked).map Job.key

/-- The keys that the sender has taken and that are not recorded. -/
def pendingKeys (c : Crew) : List ReminderKey := takenAmong c.heard

/-- The keys that a crew has in hand, beside others who have `opened` and `pending` of each key. The
log has refused none of its entries. -/
structure Keys (opened pending : ReminderKey → Nat) (c : Crew) (world : World) : Prop where
  clean : c.stats.logErrors = 0
  balanced : world.Balanced (fun key => c.openKeys.count key + opened key)
    fun key => c.pendingKeys.count key + pending key

/-- What a crew that works for a user has in hand, beside others who have `opened` and `pending` of
each key. -/
structure Ledger (user : Int) (opened pending : ReminderKey → Nat) (c : Crew) (world : World) : Prop
    extends Keys opened pending c world where
  owned : ∀ job ∈ c.atHand, world.store.Owns user job.subscriptionId

section

variable {opened pending : ReminderKey → Nat} {queue : List Job} {before after : List JobWorker}
  {stats : DeliveryStats} {job : Job} {world : World} {outcome : Except ChannelError Unit}

theorem Keys.take
    (keys : Keys opened pending ⟨job :: queue, before ++ ⟨.waiting, stats⟩ :: after⟩ world) :
    Keys opened pending ⟨queue, before ++ ⟨.holding job, stats⟩ :: after⟩ world := by
  obtain ⟨clean, counted, once⟩ := keys
  refine ⟨?_, ?_, ?_⟩
  · rwa [stats_phase]
  · intro key
    simpa [pendingKeys, held_place] using counted key
  · intro key
    have := once key
    simp only [openKeys, held_place, JobPhase.asked, List.map_append, List.count_append] at this ⊢
    rw [((uncalled_take job queue before after stats).map Job.key).count_eq]
    exact this

theorem Keys.call
    (keys : Keys opened pending ⟨queue, before ++ ⟨.holding job, stats⟩ :: after⟩ world) :
    Keys opened pending ⟨queue, before ++ ⟨.sending job, stats⟩ :: after⟩
      (world.note (.called job)) := by
  obtain ⟨clean, counted, once⟩ := keys
  refine ⟨?_, ?_, ?_⟩
  · rwa [stats_phase]
  · intro key
    simpa [takenKeys, pendingKeys, held_place] using counted key
  · intro key
    have := once key
    simp only [takenKeys, openKeys, held_place, World.note_events, answersOf_append,
      answersOf_called, List.append_nil, JobPhase.asked, List.map_append, List.map_cons,
      List.map_nil, List.count_append, List.count_cons, List.count_nil] at this ⊢
    rw [((uncalled_call job queue before after stats).map Job.key).count_eq, List.map_cons,
      List.count_cons] at this
    omega

theorem Keys.hear
    (keys : Keys opened pending ⟨queue, before ++ ⟨.sending job, stats⟩ :: after⟩ world) :
    Keys opened pending ⟨queue, before ++ ⟨.sent job outcome, stats⟩ :: after⟩
      (world.note (.returned job outcome)) := by
  obtain ⟨clean, counted, once⟩ := keys
  refine ⟨?_, ?_, ?_⟩
  · rwa [stats_phase]
  · intro key
    have := counted key
    simp only [takenKeys, pendingKeys, held_place, World.note_events, World.note_store,
      answersOf_append, answersOf_returned, JobPhase.heard, takenAmong_append, List.count_append,
      List.nil_append] at this ⊢
    omega
  · intro key
    have := once key
    have taken := count_takenAmong_le job outcome key
    simp only [takenKeys, openKeys, uncalled, held_place, World.note_events, answersOf_append,
      answersOf_returned, takenAmong_append, JobPhase.taken, JobPhase.asked, List.map_append,
      List.map_cons, List.map_nil, List.count_append, List.nil_append] at this ⊢
    omega

theorem Keys.record {now : Instant}
    (keys : Keys opened pending ⟨queue, before ++ ⟨.sent job outcome, stats⟩ :: after⟩ world) :
    Keys opened pending ⟨queue, before ++ ⟨.waiting, stats + .ofOutcome outcome false⟩ :: after⟩
      ⟨world.store.logged (job.entry outcome now), world.events⟩ := by
  obtain ⟨clean, counted, once⟩ := keys
  refine ⟨?_, ?_, ?_⟩
  · rw [stats_place queue queue before after (.sent job outcome), DeliveryStats.add_logErrors,
      clean, DeliveryStats.ofOutcome_logErrors, if_neg Bool.false_ne_true]
  · intro key
    have := counted key
    simp only [pendingKeys, held_place, JobPhase.heard, Store.sentCount_entry, takenAmong_append,
      List.count_append, List.nil_append] at this ⊢
    omega
  · intro key
    simpa [openKeys, uncalled, held_place] using once key

/-- The log cannot refuse an entry: that reminder would have been taken twice. -/
theorem Keys.not_refused {t : Turn} (keepsLog : t.KeepsLog)
    (keys : Keys opened pending ⟨queue, before ++ ⟨.sent job outcome, stats⟩ :: after⟩ world) :
    ¬job.Refused outcome t.desk t.now world.store := by
  rintro (refused | ⟨rfl, sent⟩)
  · exact refused (keepsLog _)
  · have counted := keys.balanced.counted job.key
    have once := keys.balanced.once job.key
    rw [Store.wasSent_iff_sentCount_pos] at sent
    simp only [pendingKeys, held_place, JobPhase.heard, takenAmong_append, takenAmong_ok,
      List.count_append, List.count_singleton_self] at counted
    omega

end

/-- The ledger of a crew whose jobs are new. -/
theorem ledger_start {user : Int} {opened pending : ReminderKey → Nat} {jobs : List Job}
    {world : World} (concurrency : Nat)
    (owned : ∀ job ∈ jobs, world.store.Owns user job.subscriptionId)
    (distinct : (jobs.map Job.key).Nodup) (balanced : world.Balanced opened pending)
    (fresh : ∀ key ∈ jobs.map Job.key, (takenKeys world.events).count key + opened key = 0) :
    Ledger user opened pending (start concurrency jobs) world := by
  obtain ⟨-, asked, heard⟩ := inHand_eq_nil (waiting_start concurrency jobs)
  have openKeys : (start concurrency jobs).openKeys = jobs.map Job.key := by
    rw [Crew.openKeys, uncalled_start, asked, List.append_nil]
  have pendingKeys : (start concurrency jobs).pendingKeys = [] := by
    rw [Crew.pendingKeys, heard]
    rfl
  refine ⟨⟨?_, ?_, ?_⟩, fun job mem => owned job ?_⟩
  · rw [stats_start]
    rfl
  · intro key
    simpa [pendingKeys] using balanced.counted key
  · intro key
    rw [openKeys]
    by_cases mem : key ∈ jobs.map Job.key
    · have := fresh key mem
      have := List.nodup_iff_count_le_one.mp distinct key
      omega
    · have := balanced.once key
      rw [List.count_eq_zero.mpr mem]
      omega
  · rwa [atHand_start] at mem

/-- Every move keeps the keys, and the log refuses nothing. -/
theorem Keys.move {timeout : Nat} {t : Turn} {opened pending : ReminderKey → Nat}
    {a b : Crew × World} (keys : Keys opened pending a.1 a.2) (move : Move timeout t a b)
    (keepsLog : t.KeepsLog) : Keys opened pending b.1 b.2 := by
  cases move with
  | take => exact keys.take
  | call => exact keys.call
  | hear => exact keys.hear
  | record => exact keys.record
  | refuse _ refused => exact absurd refused (keys.not_refused keepsLog)

/-- **Every move keeps the ledger**, and disturbs no other user. -/
theorem Ledger.move {timeout : Nat} {t : Turn} {user : Int} {opened pending : ReminderKey → Nat}
    {a b : Crew × World} (ledger : Ledger user opened pending a.1 a.2) (move : Move timeout t a b)
    (keepsLog : t.KeepsLog) : Ledger user opened pending b.1 b.2 ∧
      ∀ other, other ≠ user → Store.Undisturbed other a.2.store b.2.store := by
  have keys := ledger.toKeys.move move keepsLog
  obtain ⟨fewer, unchanged | ⟨job, atHand, outcome, logged⟩⟩ := move.atHand
  · refine ⟨⟨keys, fun job mem => ?_⟩, fun other _ => unchanged ▸ refl_of _ _⟩
    rw [unchanged]
    exact ledger.owned job (fewer job mem)
  · have owns := ledger.owned job atHand
    refine ⟨⟨keys, fun job mem => ?_⟩, fun other different => ?_⟩
    · rw [logged]
      exact ledger.owned job (fewer job mem)
    · rw [logged]
      exact Store.undisturbed_logged owns different.symm

/-- A key in hand is that of a job at hand. -/
theorem exists_of_mem_keys {c : Crew} {key : ReminderKey}
    (mem : key ∈ c.openKeys ++ c.pendingKeys) : ∃ job ∈ c.atHand, job.key = key := by
  rcases List.mem_append.mp mem with mem | mem
  · obtain ⟨job, asked, rfl⟩ := List.mem_map.mp mem
    exact ⟨job, List.mem_append_left _ asked, rfl⟩
  · obtain ⟨⟨job, outcome⟩, heard, taken⟩ := List.mem_filterMap.mp mem
    cases outcome with
    | ok u =>
      exact ⟨job, List.mem_append_right _ (List.mem_map_of_mem heard), Option.some.inj taken⟩
    | error e => cases taken

/-- What is left in hand when a crew is done. -/
theorem keys_eq_nil {c : Crew} (ended : c.IsOver) : c.openKeys = [] ∧ c.pendingKeys = [] := by
  obtain ⟨-, asked, heard⟩ := inHand_eq_nil ended.2
  rw [openKeys, pendingKeys, uncalled_eq_nil ended, asked, heard]
  exact ⟨rfl, rfl⟩

end Crew

end Reminders
