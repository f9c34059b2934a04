import Reminders.Proofs.Scheduler.Preparation
import Reminders.Proofs.Script.Interference
import Reminders.Proofs.Store.Undisturbed

/-!
What a preparation finds while others use the store.

A run asks the log about each reminder at another time, and others write into the log in between. As
long as they write about subscriptions of their own, what the run has found still holds when it
starts to send.

* `Preparation.Ready`: jobs of one user, none of which was sent.
* `Script.prepare_ensures`: a preparation is ready however others use the store meanwhile.
* `Script.onlyCalls_prepare`: a preparation writes nothing into the log.
-/

namespace Reminders

/-- The jobs are about subscriptions of the user, each with a key of its own, and the log does not
say of any that it was sent. -/
structure Preparation.Ready (user : Int) (p : Preparation) (s : Store) : Prop where
  nodup : (p.jobs.map Job.key).Nodup
  owned : ∀ job ∈ p.jobs, s.Owns user job.key.subscriptionId
  unsent : ∀ job ∈ p.jobs, ¬s.WasSent job.key

theorem Preparation.Ready.of_jobs_eq_nil {p : Preparation} (none : p.jobs = []) (user : Int)
    (s : Store) : p.Ready user s where
  nodup := by rw [none]; exact List.nodup_nil
  owned job mem := absurd (none ▸ mem) List.not_mem_nil
  unsent job mem := absurd (none ▸ mem) List.not_mem_nil

namespace Script

variable {defaultTemplate email : String} {user : Int} {today : Date} {s : Store}

open Store

/-- The subscriptions that are found are the user's. -/
theorem owns_of_mem_findNotifiable {subs : List Subscription}
    (found : s.findNotifiable user = .ok subs) {sub : Subscription} (mem : sub ∈ subs) :
    s.Owns user sub.id := by
  obtain ⟨r, row, read⟩ := (mem_readSubscriptions_iff found).mp mem
  obtain ⟨row, owner⟩ := List.mem_filter.mp (List.mem_filter.mp row).1
  exact owns_iff.mpr ⟨r, row, (Subscription.ofRow_eq_ok_ok read).1.symm, of_decide_eq_true owner⟩

/-- What is ensured of the candidate of a due reminder and a channel. -/
def Judged (user : Int) (pair : DueReminder × Channel) (candidate : Candidate) (s : Store) : Prop :=
  ∀ job, candidate = .ready job → job.key = pair.1.key pair.2 ∧
    s.Owns user job.key.subscriptionId ∧ ¬s.WasSent job.key

theorem Judged.stable {pair : DueReminder × Channel} {candidate : Candidate} {s s' : Store}
    (judged : Judged user pair candidate s) (others : Undisturbed user s s') :
    Judged user pair candidate s' := by
  intro job ready
  obtain ⟨same, owns, unsent⟩ := judged job ready
  exact ⟨same, others.owns owns, others.unsent _ owns unsent⟩

/-- Jobs of distinct pairs, each judged on the same store, are ready. -/
theorem ready_of_judged {p : Preparation} {pairs : List (DueReminder × Channel)}
    (distinct : (pairs.map fun pair => (pair.1.subscription.id, pair.2.type)).Nodup)
    (judged : List.Forall₂ (fun pair candidate => Judged user pair candidate s) pairs
      p.candidates) : p.Ready user s := by
  have one : ∀ job ∈ p.jobs, s.Owns user job.key.subscriptionId ∧ ¬s.WasSent job.key := by
    intro job mem
    obtain ⟨i, lt, at_i⟩ := List.mem_iff_getElem.mp (Preparation.mem_jobs_iff.mp mem)
    have lt' : i < pairs.length := judged.length_eq ▸ lt
    exact ((List.forall₂_iff_get.mp judged).2 i lt' lt job at_i).2
  refine ⟨?_, fun job mem => (one job mem).1, fun job mem => (one job mem).2⟩
  have keys : (pairs.map fun pair => pair.1.key pair.2).Nodup := by
    refine List.Nodup.of_map (fun key => (key.subscriptionId, key.channelType)) ?_
    rw [List.map_map]
    exact distinct
  exact keys.sublist (Preparation.map_jobs_sublist
    (judged.imp fun _ _ judged job ready => (judged job ready).1))

theorem candidate_ensures {pair : DueReminder × Channel}
    (owns : s.Owns user pair.1.subscription.id) :
    (candidate defaultTemplate user email pair.1 pair.2).Ensures (Undisturbed user)
      (Judged user pair) s := by
  refine .bind (.call (undisturbed_of_answer trivial) ?_)
  rintro s₁ before sent s₂ answered s₃ after
  cases answered
  have owned := after.owns (before.owns owns)
  split
  · exact .pure fun _ _ job ready => nomatch ready
  · rename_i known
    have unsent : ¬s₃.WasSent (pair.1.key pair.2) :=
      after.unsent (pair.1.key pair.2) (before.owns owns) fun sent => known (decide_eq_true sent)
    dsimp only
    split
    · exact .pure fun _ _ job ready => nomatch ready
    · refine .pure fun s₄ later => Judged.stable (fun job ready => ?_) later
      cases ready
      exact ⟨rfl, owned, unsent⟩

theorem candidates_ensure {pairs : List (DueReminder × Channel)}
    (owned : ∀ pair ∈ pairs, s.Owns user pair.1.subscription.id) :
    (each (fun (r, c) => candidate defaultTemplate user email r c) pairs).Ensures (Undisturbed user)
      (fun candidates s => List.Forall₂ (fun pair candidate => Judged user pair candidate s) pairs
        candidates) s := by
  refine Ensures.each (fun pair candidate s s' => ?_) fun pair mem s' others => ?_
  · exact Judged.stable
  · exact candidate_ensures (others.owns (owned pair mem))

/-- **A preparation is ready** however others use the store meanwhile. -/
theorem prepare_ensures (defaultTemplate : String) (user : Int) (today : Date) (s : Store) :
    (prepare defaultTemplate user today).Ensures (Undisturbed user) (Preparation.Ready user) s := by
  refine .bind ((Ensures.of_onlyCalls undisturbed_of_answer
    (onlyCalls_advanceUser user today)).mono fun advanced s _ => ?_)
  unfold findings
  refine .bind (.query (undisturbed_of_answer trivial) fun (channels : List Channel) s _ => ?_)
  split
  · exact .pure fun s _ => .of_jobs_eq_nil rfl user s
  refine .bind (.call (undisturbed_of_answer trivial)
    fun _ _ (subs : List Subscription) s₁ answered s later => ?_)
  obtain ⟨found, rfl⟩ := map_store_eq_ok_iff.mp answered
  have owned : ∀ sub ∈ subs, s.Owns user sub.id := fun sub mem =>
    later.owns (owns_of_mem_findNotifiable found mem)
  refine .bind (.query (undisturbed_of_answer trivial) fun (policy : Option Policy) s' later => ?_)
  replace owned := fun sub mem => later.owns (owned sub mem)
  refine .bind (.query (undisturbed_of_answer trivial) fun (address : Option String) s later => ?_)
  replace owned := fun sub mem => later.owns (owned sub mem)
  dsimp only
  generalize pairs_eq : (subs.filterMap (·.dueReminder? policy today)).flatMap (fun r =>
    (leadingChannels channels).map fun c => (r, c)) = pairs
  have owned : ∀ pair ∈ pairs, s.Owns user pair.1.subscription.id := by
    rw [← pairs_eq]
    intro pair mem
    obtain ⟨r, due, mem⟩ := List.mem_flatMap.mp mem
    obtain ⟨c, -, rfl⟩ := List.mem_map.mp mem
    obtain ⟨sub, found, due⟩ := List.mem_filterMap.mp due
    obtain ⟨date, -, -, rfl⟩ := Subscription.dueReminder?_eq_some_iff.mp due
    exact owned sub found
  have distinct : (pairs.map fun pair => (pair.1.subscription.id, pair.2.type)).Nodup := by
    rw [← pairs_eq]
    exact nodup_pairs channels (Subscription.dueReminders_ascending policy today
      (findNotifiable_ascending found))
  refine .bind ((candidates_ensure owned).mono fun candidates s judged => ?_)
  exact .pure fun s' later => ready_of_judged distinct (judged.imp fun _ _ one => one.stable later)

/-- Finding what is due only reads. -/
theorem onlyCalls_findings (defaultTemplate : String) (user : Int) (today : Date) (advanced : Nat) :
    (findings defaultTemplate user today advanced).OnlyCalls StoreCall.Reads := by
  refine .bind (.call trivial) fun channels => ?_
  split
  · exact .pure _
  refine .bind (.call trivial) fun subs => .bind (.call trivial) fun policy => ?_
  refine .bind (.call trivial) fun address => .bind (.each (fun pair => ?_) _) fun _ => .pure _
  refine .bind (.call trivial) fun sent => ?_
  split
  · exact .pure _
  dsimp only
  split <;> exact .pure _

/-- A preparation writes nothing into the log. -/
theorem onlyCalls_prepare (defaultTemplate : String) (user : Int) (today : Date) :
    (prepare defaultTemplate user today).OnlyCalls StoreCall.ReadsOrMoves :=
  .bind (onlyCalls_advanceUser user today) fun advanced =>
    (onlyCalls_findings defaultTemplate user today advanced).imp fun _ => StoreCall.Reads.readsOrMoves

end Script

end Reminders
