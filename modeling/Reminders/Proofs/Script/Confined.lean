import Reminders.Proofs.Scheduler.Readiness
import Reminders.Proofs.Store.Scope
import Reminders.Scheduler.Summary

/-!
Scripts that keep to the part of one user.

`Script.Confined` says of a script that it keeps to the part of a user when it is played on a store.
What others do to their own parts meanwhile does not matter, because the script cannot tell the
difference.

* `Script.Confined.sameFor`: others do not undo it.
* `Script.run_agree`: a confined script ends alike on two stores that are the same for the user.
* `Script.confined_advanceUser`, `Script.confined_prepare`, `Script.confined_summary`.
-/

namespace Reminders.Script

open Store

variable {user : Int} {s t : Store} {today : Date}

/-- Played on the store, the script makes only calls that the user's part permits, and a result
satisfies `post`. -/
def Confined (user : Int) (post : α → Store → Prop) : Script α → Store → Prop
  | .done a, s => post a s
  | .fail _, _ => True
  | .ask call next, s => s.Permits user call ∧
      ∀ reply s', s.answer call = .ok (reply, s') → (next reply).Confined user post s'

namespace Confined

theorem pure {post : α → Store → Prop} {a : α} (holds : post a s) :
    (Pure.pure a : Script α).Confined user post s :=
  holds

theorem bind {post : α → Store → Prop} {post' : β → Store → Prop} {x : Script α}
    {f : α → Script β} (first : x.Confined user post s)
    (later : ∀ a s', post a s' → (f a).Confined user post' s') :
    (x >>= f).Confined user post' s := by
  change (x.bind f).Confined user post' s
  induction x generalizing s with
  | done a => exact later a s first
  | fail failure => trivial
  | ask call next ih =>
    obtain ⟨permits, rest⟩ := first
    exact ⟨permits, fun reply s' answered => ih reply (rest reply s' answered)⟩

/-- A script that starts with a call. -/
theorem call_bind {c : StoreCall} {f : c.Reply → Script β} {post : β → Store → Prop}
    (permits : s.Permits user c)
    (later : ∀ reply s', s.answer c = .ok (reply, s') → (f reply).Confined user post s') :
    (call c >>= f).Confined user post s :=
  ⟨permits, later⟩

/-- Items that leave the store as it is. -/
theorem each {f : α → Script β} {good : β → Prop} {l : List α}
    (one : ∀ a ∈ l, (f a).Confined user (fun b s' => s' = s ∧ good b) s) :
    (each f l).Confined user (fun bs s' => s' = s ∧ ∀ b ∈ bs, good b) s := by
  induction l with
  | nil => exact .pure ⟨rfl, fun _ mem => absurd mem List.not_mem_nil⟩
  | cons a rest ih =>
    refine .bind (one a List.mem_cons_self) ?_
    rintro b _ ⟨rfl, first⟩
    refine .bind (ih fun a' mem => one a' (List.mem_cons_of_mem _ mem)) ?_
    rintro bs _ ⟨rfl, all⟩
    exact .pure ⟨rfl, List.forall_mem_cons.mpr ⟨first, all⟩⟩

/-- **Others do not undo it.** -/
theorem sameFor {post : α → Store → Prop} {x : Script α} (confined : x.Confined user post s)
    (lasting : ∀ a s t, SameFor user s t → post a s → post a t) (same : SameFor user s t) :
    x.Confined user post t := by
  induction x generalizing s t with
  | done a => exact lasting a s t same confined
  | fail failure => trivial
  | ask call next ih =>
    obtain ⟨permits, rest⟩ := confined
    refine ⟨permits.sameFor same, fun reply t' answered => ?_⟩
    have agree := agree_answer permits same
    rw [answered] at agree
    cases answered' : s.answer call with
    | error e =>
      rw [answered'] at agree
      exact agree.elim
    | ok served =>
      obtain ⟨reply', s'⟩ := served
      rw [answered'] at agree
      obtain ⟨rfl, same'⟩ := agree
      exact ih reply' (rest reply' s' answered') same'

end Confined

/-- **A confined script ends alike** on two stores that are the same for the user. -/
theorem run_agree {post : α → Store → Prop} {x : Script α} (confined : x.Confined user post s)
    (same : SameFor user s t) (desk : Desk) :
    (x.run desk t).1 = (x.run desk s).1 ∧
      SameFor user (x.run desk s).2 (x.run desk t).2 := by
  induction x generalizing s t with
  | done a => exact ⟨rfl, same⟩
  | fail failure => exact ⟨rfl, same⟩
  | ask call next ih =>
    obtain ⟨permits, rest⟩ := confined
    have agree := agree_answer permits same
    simp only [run, serve]
    cases desk call with
    | some reason => exact ⟨rfl, same⟩
    | none =>
      simp only
      cases answered : s.answer call with
      | error e =>
        cases answered' : t.answer call with
        | error f =>
          rw [answered, answered'] at agree
          cases agree
          exact ⟨rfl, same⟩
        | ok served =>
          rw [answered, answered'] at agree
          exact agree.elim
      | ok served =>
        obtain ⟨reply, s'⟩ := served
        cases answered' : t.answer call with
        | error f =>
          rw [answered, answered'] at agree
          exact agree.elim
        | ok served' =>
          obtain ⟨reply', t'⟩ := served'
          rw [answered, answered'] at agree
          obtain ⟨rfl, same'⟩ := agree
          exact ih reply (rest reply s' answered) same'

/-! ### The scripts of the scheduler -/

/-- The subscription stands in a row of the user. -/
def Current (user : Int) (s : Store) (sub : Subscription) : Prop :=
  ∃ r ∈ s.ofUser user, Subscription.ofRow r = .ok (.ok sub)

/-- A subscription stays current when the date of another one changes. -/
theorem Current.updateNextOccurrence {sub : Subscription} {id : Int} (current : Current user s sub)
    (other : sub.id ≠ id) (d : Date) : Current user (s.updateNextOccurrence id d) sub := by
  obtain ⟨r, mem, read⟩ := current
  refine ⟨r, ?_, read⟩
  rw [ofUser_updateNextOccurrence]
  refine List.mem_map.mpr ⟨r, mem, if_neg ?_⟩
  rwa [← (Subscription.ofRow_eq_ok_ok read).1]

theorem current_of_readSubscriptions {rows : List (Row SubscriptionColumn)}
    {subs : List Subscription} (found : readSubscriptions rows = .ok subs)
    (theirs : ∀ r ∈ rows, r ∈ s.ofUser user) {sub : Subscription} (mem : sub ∈ subs) :
    Current user s sub := by
  obtain ⟨r, row, read⟩ := (mem_readSubscriptions_iff found).mp mem
  exact ⟨r, theirs r row, read⟩

theorem confined_advanceEach {subs : List Subscription} (distinct : (subs.map (·.id)).Nodup)
    (current : ∀ sub ∈ subs, Current user s sub) :
    (advanceEach today subs).Confined user (fun _ _ => True) s := by
  induction subs generalizing s with
  | nil => exact .pure trivial
  | cons sub rest ih =>
    obtain ⟨fresh, distinct⟩ := List.nodup_cons.mp distinct
    obtain ⟨first, later⟩ := List.forall_mem_cons.mp current
    unfold advanceEach
    split
    · rename_i date moves
      obtain ⟨stored, dated, next, less⟩ := Subscription.rollover?_eq_some_iff.mp moves
      obtain ⟨r, mem, read⟩ := first
      have permits : s.Permits user (.updateNextOccurrence sub.id date) :=
        ⟨r, mem, (Subscription.ofRow_eq_ok_ok read).1.symm, sub, stored, date, read, dated, less,
          Subscription.charges_of_nextOnOrAfter? next, rfl⟩
      refine .call_bind permits fun _ _ answered => ?_
      cases answered
      refine .bind (ih distinct fun other mem => ?_) fun _ _ _ => .pure trivial
      refine (later other mem).updateNextOccurrence (fun same => fresh ?_) date
      exact List.mem_map.mpr ⟨other, mem, same⟩
    · exact ih distinct later

/-- **Moving the subscriptions of a user forward is confined.** -/
theorem confined_advanceUser (user : Int) (today : Date) (s : Store) :
    (advanceUser user today).Confined user (fun _ _ => True) s := by
  refine .call_bind rfl fun subs s' answered => ?_
  obtain ⟨found, rfl⟩ := map_store_eq_ok_iff.mp answered
  refine confined_advanceEach ?_ fun sub mem => ?_
  · have ascending := readSubscriptions_ascending found
      ((s'.subscriptions.ascending.filter _).filter _)
    exact List.pairwise_map.mpr (ascending.imp Int.ne_of_lt)
  · exact current_of_readSubscriptions found (fun r mem => (List.mem_filter.mp mem).1) mem

/-- **A dashboard is confined.** -/
theorem confined_summary (user : Int) (today : Date) (s : Store) :
    (summary user today).Confined user (fun _ _ => True) s := by
  refine .bind (confined_advanceUser user today s) ?_
  intro _ s' _
  split
  · trivial
  · exact .call_bind rfl fun _ _ _ => .pure trivial

/-- The job is the user's. -/
def Theirs (user : Int) (s : Store) (job : Job) : Prop :=
  s.Owns user job.subscriptionId ∧ job.userId = user

theorem Theirs.sameFor {job : Job} (theirs : Theirs user s job) (same : SameFor user s t) :
    Theirs user t job :=
  ⟨same.owns_iff.mpr theirs.1, theirs.2⟩

theorem confined_candidate {defaultTemplate email : String} {r : DueReminder} {channel : Channel}
    (owns : s.Owns user r.subscription.id) :
    (candidate defaultTemplate user email r channel).Confined user
      (fun candidate s' => s' = s ∧ ∀ job, candidate = .ready job → Theirs user s job) s := by
  refine .call_bind owns fun sent _ answered => ?_
  cases answered
  split
  · exact .pure ⟨rfl, fun job ready => nomatch ready⟩
  dsimp only
  split
  · exact .pure ⟨rfl, fun job ready => nomatch ready⟩
  · refine .pure ⟨rfl, fun job ready => ?_⟩
    cases ready
    exact ⟨owns, rfl⟩

/-- **A preparation is confined**, and its jobs are the user's. -/
theorem confined_prepare (defaultTemplate : String) (user : Int) (today : Date) (s : Store) :
    (prepare defaultTemplate user today).Confined user
      (fun p s => ∀ job ∈ p.jobs, Theirs user s job) s := by
  refine .bind (confined_advanceUser user today s) fun advanced s _ => ?_
  unfold findings
  refine .call_bind rfl fun channels s _ => ?_
  split
  · exact .pure fun job mem => absurd mem List.not_mem_nil
  refine .call_bind rfl fun subs s answered => ?_
  obtain ⟨found, rfl⟩ := map_store_eq_ok_iff.mp answered
  refine .call_bind rfl fun policy s answered => ?_
  obtain ⟨-, rfl⟩ := map_store_eq_ok_iff.mp answered
  refine .call_bind rfl fun address s answered => ?_
  obtain ⟨-, rfl⟩ := map_store_eq_ok_iff.mp answered
  dsimp only
  refine .bind (.each fun pair mem => confined_candidate ?_) ?_
  · obtain ⟨r, due, mem⟩ := List.mem_flatMap.mp mem
    obtain ⟨c, -, rfl⟩ := List.mem_map.mp mem
    obtain ⟨sub, known, due⟩ := List.mem_filterMap.mp due
    obtain ⟨date, -, -, rfl⟩ := Subscription.dueReminder?_eq_some_iff.mp due
    exact owns_of_mem_findNotifiable found known
  · rintro candidates _ ⟨rfl, all⟩
    refine .pure fun job mem => ?_
    exact all _ (Preparation.mem_jobs_iff.mp mem) job rfl

end Reminders.Script
