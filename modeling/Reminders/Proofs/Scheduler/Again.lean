import Reminders.Proofs.Scheduler.Dashboard
import Reminders.Proofs.Scheduler.Readiness

/-!
Preparing again.

A run that sent all its jobs, each of which was taken and logged, leaves nothing to do for the rest of
the day: a preparation on the store that it leaves finds the same reminders due, counts as sent what
the run sent, fails to render what it failed to render, and makes no call that writes.

* `Script.Still`: a script that changes nothing, with `Script.OnlyCalls.still` for one that only reads.
* `Script.run_findings_open`: what is found on a store, without following the calls.
* `Store.found_settled`: what is found once all jobs were sent.
* `Script.run_prepare_settled`: the preparation as a whole.
-/

namespace Reminders

open Store

/-! ### Scripts that change nothing -/

theorem Store.eq_of_answer {s t : Store} {call : StoreCall} {reply : call.Reply}
    (reads : call.Reads) (answered : s.answer call = .ok (reply, t)) : t = s := by
  cases call with
  | updateNextOccurrence | upsertPolicy | insertLog => exact reads.elim
  | existsSentLog key =>
    cases answered
    rfl
  | listUsers | findUserEmail | findOverdue | findNotifiable | findSubscriptions | findChannels
  | findPolicy => exact (Script.map_store_eq_ok_iff.mp answered).2

namespace Script

variable {s : Store}

/-- No call that the script comes to changes the store, when nobody else does. -/
def Still (s : Store) : Script α → Prop
  | .done _ => True
  | .fail _ => True
  | .ask call next => ∀ reply t, s.answer call = .ok (reply, t) → t = s ∧ (next reply).Still s

/-- A script that only reads changes nothing. -/
theorem OnlyCalls.still {x : Script α} (only : x.OnlyCalls StoreCall.Reads) (s : Store) :
    x.Still s := by
  induction x with
  | done a => trivial
  | fail failure => trivial
  | ask call next ih =>
    intro reply t answered
    exact ⟨eq_of_answer only.1 answered, ih reply (only.2 reply)⟩

/-- What comes after a piece that changes nothing starts from the same store. -/
theorem Still.bind {x : Script α} {f : α → Script β} (first : x.Still s)
    (later : ∀ a, x.run .open s = (.ok a, s) → (f a).Still s) : (x >>= f).Still s := by
  change (x.bind f).Still s
  induction x with
  | done a => exact later a rfl
  | fail failure => trivial
  | ask call next ih =>
    intro reply t answered
    obtain ⟨rfl, rest⟩ := first reply t answered
    refine ⟨rfl, ih reply rest fun a ran => later a ?_⟩
    simp only [run, serve_open, answered]
    exact ran

end Script

/-! ### Nothing to move -/

/-- The moves of a user are those of the user's rows. -/
theorem Store.plan_eq_filterMap_ofUser (s : Store) (user : Int) (today : Date) :
    s.plan user today = (s.ofUser user).filterMap (Row.move? user today) := by
  rw [plan, ofUser, List.filterMap_filter]
  apply List.filterMap_congr
  intro r _
  by_cases owner : (r.cell .userId).IsInt user
  · rw [decide_eq_true owner, if_pos rfl]
  · rw [decide_eq_false owner, if_neg Bool.false_ne_true, Option.eq_none_iff_forall_ne_some]
    exact fun m moves => owner (Row.move?_eq_some_iff.mp moves).1.1

namespace Script

variable {s t : Store} {user : Int} {today : Date}

/-- Where nothing is left to move, nothing is moved from any store with the same subscriptions of the
user. -/
theorem run_advanceUser_of_ofUser (same : t.ofUser user = s.ofUser user)
    (moved : ((advanceUser user today).run .open s).1 = .ok 0) :
    (advanceUser user today).run .open t = (.ok 0, t) ∧ (advanceUser user today).Still t := by
  have found : t.findOverdue user today = s.findOverdue user today := by
    rw [findOverdue, findOverdue, same]
  rw [run_advanceUser_eq] at moved
  cases overdue : s.findOverdue user today with
  | error e =>
    simp only [serve_open, answer, overdue] at moved
    cases moved
  | ok subs =>
    simp only [serve_open, answer, overdue, Except.map] at moved
    have none : t.plan user today = [] := by
      rw [plan_eq_filterMap_ofUser, same, ← plan_eq_filterMap_ofUser]
      exact List.eq_nil_of_length_eq_zero (run_carryOut_eq_ok moved).symm
    constructor
    · rw [run_advanceUser_eq]
      simp only [serve_open, answer, found, overdue, Except.map, none]
      rfl
    · intro reply t' answered
      obtain ⟨replied, rfl⟩ := map_store_eq_ok_iff.mp answered
      have stays := advanceEach_eq today reply
      rw [plan_eq replied, none] at stays
      refine ⟨rfl, ?_⟩
      change (advanceEach today reply).Still t'
      rw [stays]
      trivial

end Script

/-! ### What is found -/

/-- What a run finds on a store in which the subscriptions have moved forward. -/
def Store.found (s : Store) (defaultTemplate : String) (user : Int) (today : Date) :
    Except StoreError Preparation := do
  let channels ← s.findChannels user
  if channels.isEmpty then return ⟨0, 0, []⟩
  let subscriptions ← s.findNotifiable user
  let policy ← s.findPolicy user
  let address ← s.userEmail? user
  let due := subscriptions.filterMap (·.dueReminder? policy today)
  let pairs := due.flatMap fun r => (leadingChannels channels).map fun c => (r, c)
  return ⟨0, due.length,
    pairs.map fun (r, c) => s.judge defaultTemplate user (address.getD "") r c⟩

/-- The preparation for some due reminders over some channels. -/
def Store.prepared (s : Store) (defaultTemplate : String) (user : Int) (email : String)
    (channels : List Channel) (due : List DueReminder) : Preparation :=
  ⟨0, due.length, (due.flatMap fun r => (leadingChannels channels).map fun c => (r, c)).map
    fun pair => s.judge defaultTemplate user email pair.1 pair.2⟩

/-- What it takes to find something. -/
theorem Store.found_eq_ok_iff {s : Store} {defaultTemplate : String} {user : Int} {today : Date}
    {p : Preparation} : s.found defaultTemplate user today = .ok p ↔
    ∃ channels, s.findChannels user = .ok channels ∧
      (channels = [] ∧ p = ⟨0, 0, []⟩ ∨ channels ≠ [] ∧ ∃ subs policy address,
        s.findNotifiable user = .ok subs ∧ s.findPolicy user = .ok policy ∧
          s.userEmail? user = .ok address ∧ p = s.prepared defaultTemplate user (address.getD "")
            channels (subs.filterMap (·.dueReminder? policy today))) := by
  rw [Store.found, except_bind_eq_ok_iff]
  refine exists_congr fun channels => and_congr_right fun _ => ?_
  by_cases none : channels = []
  · rw [if_pos (List.isEmpty_iff.mpr none)]
    constructor
    · intro same
      exact .inl ⟨none, (Except.ok.inj same).symm⟩
    · rintro (⟨-, rfl⟩ | ⟨some, -⟩)
      · rfl
      · exact absurd none some
  · rw [if_neg (mt List.isEmpty_iff.mp none)]
    constructor
    · intro finds
      obtain ⟨subs, foundSubs, finds⟩ := except_bind_eq_ok_iff.mp finds
      obtain ⟨policy, foundPolicy, finds⟩ := except_bind_eq_ok_iff.mp finds
      obtain ⟨address, foundAddress, finds⟩ := except_bind_eq_ok_iff.mp finds
      exact .inr ⟨none, subs, policy, address, foundSubs, foundPolicy, foundAddress,
        (Except.ok.inj finds).symm⟩
    · rintro (⟨empty, -⟩ | ⟨-, subs, policy, address, foundSubs, foundPolicy, foundAddress, rfl⟩)
      · exact absurd empty none
      · refine except_bind_eq_ok_iff.mpr ⟨subs, foundSubs, ?_⟩
        refine except_bind_eq_ok_iff.mpr ⟨policy, foundPolicy, ?_⟩
        exact except_bind_eq_ok_iff.mpr ⟨address, foundAddress, rfl⟩

namespace Script

/-- A script that begins with a query. -/
theorem run_query {c : StoreCall} {x : Except StoreError c.Reply} {next : c.Reply → Script β}
    {later : c.Reply → Except StoreError β} (query : s.answer c = x.map (·, s))
    (rest : ∀ reply, (next reply).run .open s = ((later reply).mapError .database, s)) :
    (ask c next).run .open s = ((x >>= later).mapError .database, s) := by
  simp only [run, serve_open, query]
  cases x with
  | error e => rfl
  | ok reply => exact rest reply

/-- **What is found is read off the store.** -/
theorem run_findings_open (defaultTemplate : String) (user : Int) (today : Date) (s : Store) :
    (findings defaultTemplate user today 0).run .open s =
      ((s.found defaultTemplate user today).mapError .database, s) := by
  refine run_query (c := .findChannels user) rfl fun (channels : List Channel) => ?_
  change (ite _ _ _ : Script Preparation).run .open s = (Except.mapError .database (ite _ _ _), s)
  by_cases none : channels.isEmpty
  · rw [if_pos none, if_pos none]
    rfl
  rw [if_neg none, if_neg none]
  refine run_query (c := .findNotifiable user) rfl fun subs => ?_
  refine run_query (c := .findPolicy user) rfl fun policy => ?_
  refine run_query (c := .findUserEmail user) rfl fun address => ?_
  refine (run_bind (each _ _) _ .open s).trans ?_
  rw [run_each fun pair _ => run_candidate _ _ _ pair.1 pair.2 _]
  rfl

end Script

/-! ### After everything was sent -/

namespace Candidate

/-- What becomes of the candidate once everything was sent. -/
def settled : Candidate → Candidate
  | .ready _ => .alreadySent
  | candidate => candidate

end Candidate

namespace Preparation

/-- What is found once everything that was found has been sent. -/
def settled (p : Preparation) : Preparation := ⟨0, p.due, p.candidates.map .settled⟩

theorem jobs_settled (p : Preparation) : p.settled.jobs = [] := by
  rw [List.eq_nil_iff_forall_not_mem]
  intro job mem
  obtain ⟨candidate, -, ready⟩ := List.mem_map.mp (mem_jobs_iff.mp mem)
  cases candidate <;> cases ready

/-- What was sent is counted among what had been sent before, and the rest as it was. -/
theorem report_settled (p : Preparation) (delivery : DeliveryStats) :
    p.settled.report 0 = ⟨0, (p.report delivery).due,
      (p.report delivery).alreadySent + p.jobs.length, (p.report delivery).renderFailures, 0⟩ := by
  obtain ⟨advanced, due, candidates⟩ := p
  simp only [report, jobs, settled, UserReport.mk.injEq, true_and, and_true]
  induction candidates with
  | nil => exact ⟨rfl, rfl⟩
  | cons candidate rest ih =>
    obtain ⟨sent, failures⟩ := ih
    cases candidate <;>
      simp only [List.map_cons, Candidate.settled, List.countP_cons, List.filterMap_cons,
        List.length_cons, sent, failures] <;> simp <;> omega

end Preparation

namespace Store

variable {s t : Store} {defaultTemplate email : String} {user : Int} {today : Date}
  {r : DueReminder} {channel : Channel}

theorem judge_eq_alreadySent_iff :
    s.judge defaultTemplate user email r channel = .alreadySent ↔ s.WasSent (r.key channel) := by
  unfold judge
  by_cases sent : s.WasSent (r.key channel)
  · rw [if_pos sent]
    exact ⟨fun _ => sent, fun _ => rfl⟩
  · rw [if_neg sent]
    cases r.message defaultTemplate channel email with
    | error _ => exact ⟨nofun, fun h => absurd h sent⟩
    | ok _ => exact ⟨nofun, fun h => absurd h sent⟩

theorem judge_eq_unrenderable_iff : s.judge defaultTemplate user email r channel = .unrenderable ↔
    ¬s.WasSent (r.key channel) ∧
      ∃ problem, r.message defaultTemplate channel email = .error problem := by
  unfold judge
  by_cases sent : s.WasSent (r.key channel)
  · rw [if_pos sent]
    exact ⟨nofun, fun h => absurd sent h.1⟩
  · rw [if_neg sent]
    cases r.message defaultTemplate channel email with
    | error problem => exact ⟨fun _ => ⟨sent, problem, rfl⟩, fun _ => rfl⟩
    | ok _ =>
      refine ⟨nofun, ?_⟩
      rintro ⟨-, _, h⟩
      cases h

/-- **Judged again**, once the log calls sent what it did before and what the jobs were about, every
pair comes to what is left of it. -/
theorem judge_settled {pairs : List (DueReminder × Channel)}
    (distinct : (pairs.map fun pair => (pair.1.subscription.id, pair.2.type)).Nodup)
    (sent : ∀ pair ∈ pairs, t.WasSent (pair.1.key pair.2) ↔ s.WasSent (pair.1.key pair.2) ∨
      ∃ other ∈ pairs, ∃ job, s.judge defaultTemplate user email other.1 other.2 = .ready job ∧
        job.key = pair.1.key pair.2) {pair : DueReminder × Channel} (mem : pair ∈ pairs) :
    t.judge defaultTemplate user email pair.1 pair.2 =
      (s.judge defaultTemplate user email pair.1 pair.2).settled := by
  cases judged : s.judge defaultTemplate user email pair.1 pair.2 with
  | alreadySent =>
    exact judge_eq_alreadySent_iff.mpr
      ((sent pair mem).mpr (.inl (judge_eq_alreadySent_iff.mp judged)))
  | ready job =>
    obtain ⟨-, message, -, rfl⟩ := judge_eq_ready_iff.mp judged
    exact judge_eq_alreadySent_iff.mpr ((sent pair mem).mpr (.inr ⟨pair, mem, _, judged, rfl⟩))
  | unrenderable =>
    obtain ⟨unsent, fails⟩ := judge_eq_unrenderable_iff.mp judged
    refine judge_eq_unrenderable_iff.mpr ⟨fun now => ?_, fails⟩
    rcases (sent pair mem).mp now with before | ⟨other, mem', job, ready, same⟩
    · exact unsent before
    · -- Only the pair itself has this key, and it was not sent.
      obtain ⟨-, message, -, rfl⟩ := judge_eq_ready_iff.mp ready
      have alike : other = pair := by
        refine List.inj_on_of_nodup_map distinct mem' mem ?_
        exact Prod.ext (congrArg (·.subscriptionId) same) (congrArg (·.channelType) same)
      cases alike
      cases ready.symm.trans judged

/-- **What is found once all jobs were sent.** -/
theorem found_settled {p : Preparation} (finds : s.found defaultTemplate user today = .ok p)
    (users : t.users = s.users) (policies : t.policies = s.policies)
    (channels : t.channels = s.channels) (subscriptions : t.ofUser user = s.ofUser user)
    (sent : ∀ key, t.Owns user key.subscriptionId →
      (t.WasSent key ↔ s.WasSent key ∨ ∃ job ∈ p.jobs, job.key = key)) :
    t.found defaultTemplate user today = .ok p.settled := by
  have owns {id : Int} (owns : s.Owns user id) : t.Owns user id := by
    rw [owns_iff_exists] at owns ⊢
    rwa [subscriptions]
  have sameChannels : t.findChannels user = s.findChannels user := by
    rw [findChannels, findChannels, enabledChannels, enabledChannels, channels]
  have sameSubs : t.findNotifiable user = s.findNotifiable user := by
    rw [findNotifiable, findNotifiable, subscriptions]
  have samePolicy : t.findPolicy user = s.findPolicy user := by
    rw [findPolicy, findPolicy, policies]
  have sameAddress : t.userEmail? user = s.userEmail? user := by
    rw [userEmail?, userEmail?, users]
  obtain ⟨channels, foundChannels, finds⟩ := found_eq_ok_iff.mp finds
  rw [← sameChannels] at foundChannels
  rcases finds with ⟨none, rfl⟩ | ⟨some, subs, policy, address, foundSubs, foundPolicy, foundAddress,
    rfl⟩
  · exact found_eq_ok_iff.mpr ⟨channels, foundChannels, .inl ⟨none, rfl⟩⟩
  refine found_eq_ok_iff.mpr ⟨channels, foundChannels, .inr ⟨some, subs, policy, address,
    sameSubs.trans foundSubs, samePolicy.trans foundPolicy, sameAddress.trans foundAddress, ?_⟩⟩
  refine congrArg (Preparation.mk 0 _) ?_
  rw [prepared, List.map_map]
  refine List.map_congr_left fun pair mem => (judge_settled ?_ (fun pair mem => ?_) mem).symm
  · exact nodup_pairs channels
      (Subscription.dueReminders_ascending policy today (findNotifiable_ascending foundSubs))
  · have mine : t.Owns user pair.1.subscription.id := by
      obtain ⟨r, due, mem⟩ := List.mem_flatMap.mp mem
      obtain ⟨c, -, rfl⟩ := List.mem_map.mp mem
      obtain ⟨sub, known, due⟩ := List.mem_filterMap.mp due
      obtain ⟨date, -, -, rfl⟩ := Subscription.dueReminder?_eq_some_iff.mp due
      exact owns (Script.owns_of_mem_findNotifiable foundSubs known)
    rw [sent _ mine]
    refine or_congr_right ⟨?_, ?_⟩
    · rintro ⟨job, ready, same⟩
      obtain ⟨other, mem', ready⟩ := List.mem_map.mp (Preparation.mem_jobs_iff.mp ready)
      exact ⟨other, mem', job, ready, same⟩
    · rintro ⟨other, mem', job, ready, same⟩
      exact ⟨job, Preparation.mem_jobs_iff.mpr (List.mem_map.mpr ⟨other, mem', ready⟩), same⟩

end Store

namespace Script

variable {s t moved : Store} {defaultTemplate : String} {user : Int} {today : Date}
  {p : Preparation}

/-- **A preparation on the same day, once all jobs were sent**, moves nothing, finds what is left, and
writes nothing. -/
theorem run_prepare_settled
    (prepared : (prepare defaultTemplate user today).run .open s = (.ok p, moved))
    (users : t.users = moved.users) (policies : t.policies = moved.policies)
    (channels : t.channels = moved.channels) (subscriptions : t.ofUser user = moved.ofUser user)
    (sent : ∀ key, t.Owns user key.subscriptionId →
      (t.WasSent key ↔ moved.WasSent key ∨ ∃ job ∈ p.jobs, job.key = key)) :
    (prepare defaultTemplate user today).run .open t = (.ok p.settled, t) ∧
      (prepare defaultTemplate user today).Still t := by
  rw [prepare, run_bind] at prepared
  have again := run_advanceUser_again .open s user today
  cases first : (advanceUser user today).run .open s with
  | mk result after =>
    rw [first] at prepared again
    cases result with
    | error failure => cases prepared
    | ok n =>
      simp only [run_findings _ _ _ n, run_findings_open] at prepared
      cases found : after.found defaultTemplate user today with
      | error e =>
        rw [found] at prepared
        cases prepared
      | ok p₀ =>
        rw [found] at prepared
        cases prepared
        obtain ⟨stays, still⟩ := run_advanceUser_of_ofUser subscriptions (congrArg Prod.fst again)
        have finds := found_settled found users policies channels subscriptions sent
        rw [prepare]
        constructor
        · rw [run_bind, stays]
          simp only [run_findings_open, finds]
          rfl
        · exact still.bind fun a _ => (onlyCalls_findings _ _ _ a).still t

end Script

end Reminders
