import Reminders.Proofs.Scheduler.Plan

/-!
Dashboards before a run.

A dashboard moves the overdue subscriptions of its user forward and then only reads. The run that
comes after it moves the rest forward, if anything was left, and goes on from the same store, so it
ends in all the ways in which it could have ended without the dashboard, and in no other.

* `UserTask.reaches_finished_iff`: how a run ends is known from how its preparation ends.
* `Script.run_prepare_after`: a preparation after dashboards.
* `UserTask.dashboards_do_not_disturb`
-/

namespace Reminders

/-! ### Runs whose turns are restricted -/

namespace UserTask

/-- Some allowed turns, one after the other, lead from one state of a run to another. -/
def Reaches (e : Engine) (allowed : Turn → Prop) : UserTask × World → UserTask × World → Prop :=
  Relation.ReflTransGen fun a b => ∃ t, allowed t ∧ a.1.step e t a.2 = some b

variable {e : Engine} {allowed : Turn → Prop} {desk : Desk} {w last : World}
  {result : Except Failure UserReport} {p : Preparation} {crew : Crew}

theorem Reaches.of_repeats {t : Turn} {a b : UserTask × World} (turn : allowed t)
    (repeated : Repeats t (UserTask.step e) a b) : Reaches e allowed a b :=
  Relation.ReflTransGen.mono (fun _ _ stepped => ⟨t, turn, stepped⟩) a b repeated

/-- A run that has ended does nothing more. -/
theorem reaches_finished {outcome : Except Failure UserReport}
    (reached : Reaches e allowed (.finished outcome, w) (.finished result, last)) :
    result = outcome ∧ last = w := by
  rcases Relation.ReflTransGen.cases_head reached with same | ⟨b, ⟨t, -, stepped⟩, -⟩
  · cases same
    exact ⟨rfl, rfl⟩
  · cases stepped

/-- How a run ends once its preparation is played, which takes a turn at least. -/
theorem reaches_finished_iff (same : ∀ t, allowed t → t.desk = desk) {work : Script Preparation} :
    Reaches e allowed (.preparing work, w) (.finished result, last) ↔
      (∃ t, allowed t) ∧
        match work.run desk w.store with
        | (.ok p, store) => Reaches e allowed
            (.dispatching p (.start e.jobConcurrency p.jobs), { w with store }) (.finished result, last)
        | (.error failure, store) => result = .error failure ∧ last = { w with store } := by
  induction work generalizing w with
  | done p =>
    constructor
    · intro reached
      rcases Relation.ReflTransGen.cases_head reached with same | ⟨b, ⟨t, turn, stepped⟩, rest⟩
      · cases same
      · cases stepped
        exact ⟨⟨t, turn⟩, rest⟩
    · rintro ⟨⟨t, turn⟩, rest⟩
      exact .head ⟨t, turn, rfl⟩ rest
  | fail failure =>
    constructor
    · intro reached
      rcases Relation.ReflTransGen.cases_head reached with same | ⟨b, ⟨t, turn, stepped⟩, rest⟩
      · cases same
      · cases stepped
        exact ⟨⟨t, turn⟩, reaches_finished rest⟩
    · rintro ⟨⟨t, turn⟩, rfl, rfl⟩
      exact .single ⟨t, turn, rfl⟩
  | ask call next ih =>
    simp only [Script.run]
    cases served : w.store.serve desk call with
    | error refused =>
      constructor
      · intro reached
        rcases Relation.ReflTransGen.cases_head reached with same' | ⟨b, ⟨t, turn, stepped⟩, rest⟩
        · cases same'
        · simp only [UserTask.step, same t turn, served] at stepped
          cases stepped
          exact ⟨⟨t, turn⟩, reaches_finished rest⟩
      · rintro ⟨⟨t, turn⟩, rfl, rfl⟩
        refine .single ⟨t, turn, ?_⟩
        simp only [UserTask.step, same t turn, served]
    | ok reply =>
      obtain ⟨reply, store⟩ := reply
      refine Iff.trans ?_ (ih reply (w := { w with store }))
      constructor
      · intro reached
        rcases Relation.ReflTransGen.cases_head reached with same' | ⟨b, ⟨t, turn, stepped⟩, rest⟩
        · cases same'
        · simp only [UserTask.step, same t turn, served] at stepped
          cases stepped
          exact rest
      · intro rest
        obtain ⟨⟨t, turn⟩, -⟩ := (ih reply (w := { w with store })).mp rest
        refine .head ⟨t, turn, ?_⟩ rest
        simp only [UserTask.step, same t turn, served]

/-- What a crew does depends on its jobs alone, so runs whose preparations differ otherwise send
alike. -/
theorem reaches_of_dispatching
    (reached : Reaches e allowed (.dispatching p crew, w) (.finished result, last)) :
    ∃ stats, result = .ok (p.report stats) ∧ ∀ q : Preparation,
      Reaches e allowed (.dispatching q crew, w) (.finished (.ok (q.report stats)), last) := by
  generalize start : (UserTask.dispatching p crew, w) = a at reached
  induction reached using Relation.ReflTransGen.head_induction_on generalizing crew w with
  | refl => cases start
  | head led rest ih =>
    obtain ⟨t, turn, stepped⟩ := led
    cases start
    cases step_eq_some_iff.mp stepped with
    | report ended =>
      obtain ⟨rfl, rfl⟩ := reaches_finished rest
      exact ⟨crew.stats, rfl, fun q => .single ⟨t, turn, step_eq_some_iff.mpr (.report ended)⟩⟩
    | deliver busy move =>
      obtain ⟨stats, rfl, others⟩ := ih rfl
      refine ⟨stats, rfl, fun q => .head ⟨t, turn, ?_⟩ (others q)⟩
      exact step_eq_some_iff.mpr (.deliver busy move)

end UserTask

/-! ### After dashboards -/

namespace Script

variable {desk : Desk} {s : Store} {user : Int} {today : Date}

theorem bind_bind (x : Script α) (f : α → Script β) (g : β → Script γ) :
    (x.bind f).bind g = x.bind fun a => (f a).bind g := by
  induction x with
  | done a => rfl
  | fail failure => rfl
  | ask call next ih => exact congrArg (ask call) (funext ih)

/-- What a run finds does not depend on how many subscriptions have moved. -/
theorem findings_eq (defaultTemplate : String) (user : Int) (today : Date) (advanced : Nat) :
    findings defaultTemplate user today advanced =
      findings defaultTemplate user today 0 >>= fun p => pure { p with advanced } := by
  refine congrArg (ask (.findChannels user)) (funext fun (channels : List Channel) => ?_)
  change ite _ _ _ = Script.bind (ite _ _ _) _
  by_cases none : channels.isEmpty
  · rw [if_pos none, if_pos none]
    rfl
  · rw [if_neg none, if_neg none]
    refine congrArg (ask (.findNotifiable user)) (funext fun subs => ?_)
    refine congrArg (ask (.findPolicy user)) (funext fun policy => ?_)
    refine congrArg (ask (.findUserEmail user)) (funext fun address => ?_)
    change Script.bind _ _ = Script.bind (Script.bind (each _ _) _) _
    rw [bind_bind]
    rfl

/-- What a run finds on a store, with another number of moved subscriptions. -/
theorem run_findings (defaultTemplate : String) (user : Int) (today : Date) (advanced : Nat)
    (desk : Desk) (s : Store) :
    (findings defaultTemplate user today advanced).run desk s =
      (((findings defaultTemplate user today 0).run desk s).1.map ({ · with advanced }),
        ((findings defaultTemplate user today 0).run desk s).2) := by
  rw [findings_eq, run_bind]
  cases (findings defaultTemplate user today 0).run desk s with
  | mk result t => cases result <;> rfl

/-- **A preparation after a rollover on the same day** leaves the same store and finds the same, and
has nothing to move. -/
theorem run_prepare_after (defaultTemplate : String) (user : Int) (today : Date) (desk : Desk)
    (s : Store) :
    (prepare defaultTemplate user today).run desk ((advanceUser user today).run desk s).2 =
      (((prepare defaultTemplate user today).run desk s).1.map ({ · with advanced := 0 }),
        ((prepare defaultTemplate user today).run desk s).2) := by
  rw [prepare, run_bind, run_bind, run_advanceUser_again]
  cases (advanceUser user today).run desk s with
  | mk result t =>
    cases result with
    | error failure => rfl
    | ok n =>
      simp only [Except.map]
      rw [run_findings _ _ _ n, run_findings _ _ _ 0]
      cases (findings defaultTemplate user today 0).run desk t with
      | mk result t' =>
        cases result with
        | error failure => rfl
        | ok p => rfl

/-! ### Dashboards -/

/-- What a dashboard shows once the subscriptions are moved forward. -/
def totals (user : Int) (today : Date) : Script Summary :=
  match today.monthBounds with
  | none => .fail (.validation (.noNextMonth today))
  | some (start, stop) => do
    let subscriptions : List Subscription ← call (.findSubscriptions user)
    return .ofSubscriptions subscriptions start stop

theorem summary_eq (user : Int) (today : Date) :
    summary user today = advanceUser user today >>= fun _ => totals user today := rfl

/-- Adding up leaves the store as it is. -/
theorem run_totals (user : Int) (today : Date) (desk : Desk) (s : Store) :
    ((totals user today).run desk s).2 = s := by
  unfold totals
  split
  · rfl
  · change ((ask (.findSubscriptions user) _).run desk s).2 = s
    simp only [run]
    cases served : s.serve desk (.findSubscriptions user) with
    | error e => rfl
    | ok reply =>
      obtain ⟨-, rfl⟩ := map_store_eq_ok_iff.mp (Store.answer_eq_of_serve_eq_ok served)
      rfl

/-- A dashboard leaves the store that moving the subscriptions forward leaves. -/
theorem run_summary (user : Int) (today : Date) (desk : Desk) (s : Store) :
    ((summary user today).run desk s).2 = ((advanceUser user today).run desk s).2 := by
  rw [summary_eq, run_bind]
  cases (advanceUser user today).run desk s with
  | mk result t =>
    cases result with
    | error failure => rfl
    | ok n => exact run_totals user today desk t

/-- **A second dashboard shows the same and writes nothing.** -/
theorem run_summary_again (user : Int) (today : Date) (desk : Desk) (s : Store) :
    (summary user today).run desk ((summary user today).run desk s).2 =
      (summary user today).run desk s := by
  rw [run_summary, summary_eq, run_bind, run_bind, run_advanceUser_again]
  cases (advanceUser user today).run desk s with
  | mk result t => cases result <;> rfl

end Script

namespace Store

/-- The store after some dashboards of a user, one after the other. -/
def afterDashboards (desk : Desk) (user : Int) (today : Date) : Nat → Store → Store
  | 0, s => s
  | n + 1, s => afterDashboards desk user today n ((Script.summary user today).run desk s).2

/-- Many dashboards leave the store that moving the subscriptions forward once leaves. -/
theorem afterDashboards_succ (desk : Desk) (user : Int) (today : Date) (n : Nat) (s : Store) :
    s.afterDashboards desk user today (n + 1) = ((Script.advanceUser user today).run desk s).2 := by
  induction n generalizing s with
  | zero => exact Script.run_summary user today desk s
  | succ n ih =>
    rw [afterDashboards, ih, Script.run_summary, Script.run_advanceUser_again]

end Store

/-- The report of a run without the number of subscriptions that moved. -/
def UserReport.unmoved (r : UserReport) : UserReport := { r with advanced := 0 }

/-- Two runs end alike: with the same failure, or with reports that differ in the number of
subscriptions that moved at most. -/
def SameButAdvanced (a b : Except Failure UserReport) : Prop :=
  a.map UserReport.unmoved = b.map UserReport.unmoved

theorem SameButAdvanced.symm {a b : Except Failure UserReport} (same : SameButAdvanced a b) :
    SameButAdvanced b a :=
  Eq.symm same

namespace UserTask

variable {e : Engine} {allowed : Turn → Prop} {desk : Desk} {user : Int} {today : Date}
  {s s' t : Store} {prepared prepared' : Except Failure Preparation} {last : World}
  {result' : Except Failure UserReport}

/-- **Runs whose preparations find the same on the same store end alike**, in the same world. -/
theorem reaches_alike (same : ∀ t, allowed t → t.desk = desk)
    (ran : (Script.prepare e.defaultTemplate user today).run desk s = (prepared, t))
    (ran' : (Script.prepare e.defaultTemplate user today).run desk s' = (prepared', t))
    (alike : prepared.map ({ · with advanced := 0 }) = prepared'.map ({ · with advanced := 0 }))
    (reached : Reaches e allowed (.start e user today, ⟨s', []⟩) (.finished result', last)) :
    ∃ result, Reaches e allowed (.start e user today, ⟨s, []⟩) (.finished result, last) ∧
      SameButAdvanced result result' ∧
        ∀ report, result' = .ok report → ∃ p, prepared' = .ok p ∧ report.advanced = p.advanced := by
  have reached := (reaches_finished_iff same).mp reached
  simp only [ran'] at reached
  obtain ⟨turn, reached⟩ := reached
  cases prepared' with
  | error failure =>
    obtain ⟨rfl, rfl⟩ := reached
    cases prepared with
    | ok p => cases alike
    | error failure' =>
      cases alike
      refine ⟨.error failure, (reaches_finished_iff same).mpr ⟨turn, ?_⟩, rfl, nofun⟩
      simp only [ran, and_self]
  | ok p' =>
    cases prepared with
    | error failure => cases alike
    | ok p =>
      have found := Except.ok.inj alike
      simp only [Preparation.mk.injEq, true_and] at found
      obtain ⟨due, candidates⟩ := found
      have jobs : p.jobs = p'.jobs := by rw [Preparation.jobs, Preparation.jobs, candidates]
      obtain ⟨stats, rfl, others⟩ := reaches_of_dispatching reached
      refine ⟨.ok (p.report stats), (reaches_finished_iff same).mpr ⟨turn, ?_⟩, ?_, ?_⟩
      · simp only [ran, jobs]
        exact others p
      · refine congrArg Except.ok ?_
        simp only [UserReport.unmoved, Preparation.report, due, candidates]
      · rintro report ⟨⟩
        exact ⟨p', rfl, rfl⟩

/-- **Dashboards do not disturb the run that comes after them.** Let the store refuse the same calls
all the time, and let the sender, the clock and the order of the workers be anything. Then the run
after any number of dashboards of its user on its day ends in a world (the tables, the calls of the
sender and its answers) exactly when the run without them can end there, with the same failure or
with the same report but for the number of subscriptions that moved, which is zero after a dashboard.
So does the run that sends one job after the other. A second dashboard shows what the first one
showed and leaves the store as it is. -/
theorem dashboards_do_not_disturb (e : Engine) (desk : Desk) (user : Int) (today : Date)
    (s : Store) (n : Nat) :
    (∀ allowed : Turn → Prop, (∀ t, allowed t → t.desk = desk) → ∀ last,
      (∀ result', Reaches e allowed
          (.start e user today, ⟨s.afterDashboards desk user today n, []⟩) (.finished result', last) →
        (∃ result, Reaches e allowed (.start e user today, ⟨s, []⟩) (.finished result, last) ∧
          SameButAdvanced result result') ∧
        (0 < n → ∀ report, result' = .ok report → report.advanced = 0)) ∧
      ∀ result, Reaches e allowed (.start e user today, ⟨s, []⟩) (.finished result, last) →
        ∃ result', Reaches e allowed
          (.start e user today, ⟨s.afterDashboards desk user today n, []⟩) (.finished result', last) ∧
            SameButAdvanced result result') ∧
    (∀ sender now,
      let alone := e.runUser sender desk now s user today
      let after := e.runUser sender desk now (s.afterDashboards desk user today n) user today
      SameButAdvanced alone.result after.result ∧ after.sent = alone.sent ∧
        after.store = alone.store) ∧
    (Script.summary user today).run desk ((Script.summary user today).run desk s).2 =
      (((Script.summary user today).run desk s).1, ((Script.summary user today).run desk s).2) := by
  refine ⟨?_, ?_, Script.run_summary_again user today desk s⟩
  · intro allowed same last
    cases n with
    | zero =>
      exact ⟨fun result' reached => ⟨⟨result', reached, rfl⟩, nofun⟩,
        fun result reached => ⟨result, reached, rfl⟩⟩
    | succ n =>
      rw [Store.afterDashboards_succ]
      have after := Script.run_prepare_after e.defaultTemplate user today desk s
      have alike (x : Except Failure Preparation) : x.map ({ · with advanced := 0 }) =
          (x.map ({ · with advanced := 0 })).map ({ · with advanced := 0 }) := by
        cases x <;> rfl
      constructor
      · intro result' reached
        obtain ⟨result, reached, same, counted⟩ := reaches_alike same rfl after (alike _) reached
        refine ⟨⟨result, reached, same⟩, fun _ report ok => ?_⟩
        obtain ⟨p, found, moved⟩ := counted report ok
        cases ran : ((Script.prepare e.defaultTemplate user today).run desk s).1 with
        | error failure =>
          rw [ran] at found
          cases found
        | ok q =>
          rw [ran] at found
          cases found
          exact moved
      · intro result reached
        obtain ⟨result', reached', same, -⟩ :=
          reaches_alike same after rfl (alike _).symm reached
        exact ⟨result', reached', same.symm⟩
  · intro sender now
    cases n with
    | zero => exact ⟨rfl, rfl, rfl⟩
    | succ n =>
      rw [Store.afterDashboards_succ]
      simp only [Engine.runUser, Script.run_prepare_after]
      cases (Script.prepare e.defaultTemplate user today).run desk s with
      | mk result t => cases result <;> exact ⟨rfl, rfl, rfl⟩

/-- A daily subscription that two dashboards have brought up to date before the run reminds of it. -/
theorem dashboards_do_not_disturb_sample :
    ∃ last, Reaches Sample.engine (fun t => t.desk = .open) (.start Sample.engine 1 Sample.today,
        ⟨Sample.subscribed .day "2026-02-01", []⟩) (.finished (.ok ⟨1, 1, 0, 0, ⟨1, 0, 0⟩⟩), last) ∧
      Reaches Sample.engine (fun t => t.desk = .open) (.start Sample.engine 1 Sample.today,
        ⟨(Sample.subscribed .day "2026-02-01").afterDashboards .open 1 Sample.today 2, []⟩)
        (.finished (.ok ⟨0, 1, 0, 0, ⟨1, 0, 0⟩⟩), last) ∧
      (callsOf last.events).length = 1 := by
  have result : (Sample.engine.runUser Sample.sender .open Sample.noon
      (Sample.subscribed .day "2026-02-01") 1 Sample.today).result =
        .ok ⟨1, 1, 0, 0, ⟨1, 0, 0⟩⟩ := by decide +kernel
  have once : (Sample.engine.runUser Sample.sender .open Sample.noon
      (Sample.subscribed .day "2026-02-01") 1 Sample.today).sent.length = 1 := by decide +kernel
  obtain ⟨events, ran, calls⟩ := Sample.engine.runs_runUser Sample.sender .open Sample.noon
    ⟨Sample.subscribed .day "2026-02-01", []⟩ 1 Sample.today
  rw [result] at ran
  have reached : Reaches Sample.engine (fun t => t.desk = .open) _ _ := Reaches.of_repeats rfl ran
  have turns : ∀ t : Turn, t.desk = .open → t.desk = .open := fun _ same => same
  obtain ⟨after, before⟩ := (dashboards_do_not_disturb Sample.engine .open 1 Sample.today
    (Sample.subscribed .day "2026-02-01") 2).1 _ turns _
  obtain ⟨result', reached', same⟩ := before _ reached
  have counted := (after _ reached').2 (by decide)
  cases result' with
  | error failure => cases same
  | ok report =>
    have zero := counted report rfl
    have rest := Except.ok.inj same
    cases report
    cases zero
    cases rest
    exact ⟨_, reached, reached', by rw [calls]; exact once⟩

end UserTask

end Reminders
