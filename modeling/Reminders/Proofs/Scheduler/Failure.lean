import Reminders.Proofs.Scheduler.Again
import Reminders.Proofs.Scheduler.Changed
import Reminders.Proofs.Scheduler.Origin

/-!
Runs that fail.

A run makes the moves of its plan, one after the other, and only reads from then on until all jobs
are known. So wherever it fails, it has made the first few moves and has sent nothing. These moves
are the ones that the next run would begin with, which therefore finds what it would have found
without the failed run.

* `Script.MovesThenReads`: a script that makes some moves and then only reads.
* `UserTask.Underway.step`: how far a run has got before it sends anything.
* `Store.plan_carriedOut`: what is left of a plan after the first moves.
* `Script.run_prepare_partly`: a preparation after the first moves.
* `Engine.failed_run_sends_nothing`
-/

namespace Reminders

open Store

/-! ### Stores after the first moves of a plan -/

namespace Store

variable {s t : Store} {user : Int} {today : Date} {made rest : List (Int × Date)}

/-- Moves change dates of subscriptions only. -/
theorem sameButDates_carriedOut (s : Store) (moves : List (Int × Date)) :
    s.SameButDates (s.carriedOut moves) := by
  induction moves generalizing s with
  | nil => exact .refl s
  | cons m rest ih =>
    have first : s.SameButDates (s.updateNextOccurrence m.1 m.2) :=
      ⟨rfl, rfl, rfl, rfl, s.owners_updateNextOccurrence m.1 m.2⟩
    exact first.trans (ih _)

/-- **What is left of a plan after the first moves.** -/
theorem plan_carriedOut (readable : ∃ subs, s.findOverdue user today = .ok subs)
    (planned : s.plan user today = made ++ rest) :
    (s.carriedOut made).plan user today = rest ∧
      ∃ subs, (s.carriedOut made).findOverdue user today = .ok subs := by
  induction made generalizing s with
  | nil => exact ⟨planned, readable⟩
  | cons m made ih =>
    obtain ⟨left, readable'⟩ := plan_updateNextOccurrence readable planned
    exact ih readable' left

end Store

/-- The row is as it was, or it was overdue and stands where a rollover of the user moves it. -/
def Row.Advanced (user : Int) (today : Date) (r r' : Row SubscriptionColumn) : Prop :=
  r' = r ∨ r.IsOverdue user today ∧ ∃ sub d, Subscription.ofRow r = .ok (.ok sub) ∧
    sub.rollover? today = some d ∧ r' = r.movedTo d

theorem Row.advanced_broughtUpTo (user : Int) (today : Date) (r : Row SubscriptionColumn) :
    Row.Advanced user today r (r.broughtUpTo user today) := by
  rcases r.broughtUpTo_eq_or user today with same | ⟨sub, a, d, read, overdue, dated, next, less,
    moved⟩
  · exact .inl same
  · exact .inr ⟨overdue, sub, d, read,
      Subscription.rollover?_eq_some_iff.mpr ⟨a, dated, next, less⟩, moved⟩

/-! ### Scripts that move and then read -/

namespace Script

variable {moves : List (Int × Date)} {user : Int} {today : Date}

/-- The script makes these moves, one after the other, unless it fails. After the last it only
reads. -/
def MovesThenReads : Script α → List (Int × Date) → Prop
  | .done _, moves => moves = []
  | .fail _, _ => True
  | .ask call next, [] => call.Reads ∧ ∀ reply, (next reply).MovesThenReads []
  | .ask call next, m :: rest => call = .updateNextOccurrence m.1 m.2 ∧
      ∀ reply, (next reply).MovesThenReads rest

/-- A script that only reads makes no moves. -/
theorem OnlyCalls.movesThenReads {x : Script α} (only : x.OnlyCalls StoreCall.Reads) :
    x.MovesThenReads [] := by
  induction x with
  | done a => rfl
  | fail failure => trivial
  | ask call next ih => exact ⟨only.1, fun reply => ih reply (only.2 reply)⟩

theorem MovesThenReads.bind {x : Script α} {f : α → Script β} (first : x.MovesThenReads moves)
    (later : ∀ a, (f a).OnlyCalls StoreCall.Reads) : (x >>= f).MovesThenReads moves := by
  change (x.bind f).MovesThenReads moves
  induction x generalizing moves with
  | done a =>
    cases first
    exact (later a).movesThenReads
  | fail failure => trivial
  | ask call next ih =>
    cases moves with
    | nil => exact ⟨first.1, fun reply => ih reply (first.2 reply)⟩
    | cons m rest => exact ⟨first.1, fun reply => ih reply (first.2 reply)⟩

theorem movesThenReads_carryOut (plan : List (Int × Date)) :
    (carryOut plan).MovesThenReads plan := by
  induction plan with
  | nil => rfl
  | cons m rest ih => exact ⟨rfl, fun _ => ih.bind fun n => .pure (n + 1)⟩

/-- **What is left of a preparation** once the overdue subscriptions are found: the plan is carried
out, and then there are only queries. -/
theorem movesThenReads_prepare {s : Store} {subs : List Subscription}
    (found : s.findOverdue user today = .ok subs) (defaultTemplate : String) :
    (advanceEach today subs >>= findings defaultTemplate user today).MovesThenReads
      (s.plan user today) := by
  rw [advanceEach_eq, plan_eq found]
  exact (movesThenReads_carryOut _).bind fun n => onlyCalls_findings defaultTemplate user today n

end Script

/-! ### Runs that have sent nothing -/

/-- A way to look at a world, by which a user's subscriptions are seen as those of a store, and
moves are seen. -/
structure World.Shows (user : Int) (view : Store → World → Prop) : Prop where
  subscriptions {s : Store} {w : World} : view s w → w.store.ofUser user = s.ofUser user
  moves {s : Store} {w : World} (id : Int) (d : Date) : view s w →
    view (s.updateNextOccurrence id d) { w with store := w.store.updateNextOccurrence id d }

namespace UserTask

variable {view : Store → World → Prop} {e : Engine} {t : Turn} {user : Int} {today : Date}
  {s : Store} {task task' : UserTask} {w w' : World}

/-- As long as the run has sent nothing, and when it has failed, it is seen to have made the first
moves of its plan. What it has still to do before it sends is to make the others and to read. -/
def Underway (view : Store → World → Prop) (e : Engine) (user : Int) (today : Date) (s : Store) :
    UserTask → World → Prop
  | .preparing work, w =>
    (view s w ∧ work = Script.prepare e.defaultTemplate user today) ∨
      ∃ made rest, s.plan user today = made ++ rest ∧
        (∃ subs, s.findOverdue user today = .ok subs) ∧ view (s.carriedOut made) w ∧
          work.MovesThenReads rest
  | .finished (.error _), w => view s w ∨ ∃ made, made <+: s.plan user today ∧
      (∃ subs, s.findOverdue user today = .ok subs) ∧ view (s.carriedOut made) w
  | .dispatching _ _, _ | .finished (.ok _), _ => True

theorem underway_start {view : Store → World → Prop} (seen : view s w) (e : Engine) (user : Int)
    (today : Date) : (start e user today).Underway view e user today s w :=
  .inl ⟨seen, rfl⟩

/-- A run that fails leaves what it has made so far. -/
theorem Underway.failed {work : Script Preparation} (failure : Failure)
    (underway : (preparing work).Underway view e user today s w) :
    (finished (.error failure)).Underway view e user today s w := by
  rcases underway with ⟨seen, -⟩ | ⟨made, rest, planned, readable, seen, -⟩
  · exact .inl seen
  · exact .inr ⟨made, ⟨rest, planned.symm⟩, readable, seen⟩

/-- **A step of a run** is a query, or the next move of its plan, as long as nothing is sent. -/
theorem Underway.step (shows : World.Shows user view)
    (underway : task.Underway view e user today s w)
    (stepped : task.step e t w = some (task', w')) : task'.Underway view e user today s w' := by
  cases step_eq_some_iff.mp stepped with
  | @answer call next world reply store served =>
    have answered := answer_eq_of_serve_eq_ok served
    rcases underway with ⟨seen, first⟩ | ⟨made, rest, planned, readable, seen, script⟩
    · -- The first call asks for the overdue subscriptions, from which the plan is known.
      change Script.ask call next = .ask (.findOverdue user today) fun subs =>
        Script.advanceEach today subs >>= Script.findings e.defaultTemplate user today at first
      cases first
      obtain ⟨found, rfl⟩ := Script.map_store_eq_ok_iff.mp answered
      have same := shows.subscriptions seen
      have planned : w.store.plan user today = s.plan user today := by
        rw [plan_eq_filterMap_ofUser, plan_eq_filterMap_ofUser, same]
      refine .inr ⟨[], s.plan user today, rfl, ⟨reply, ?_⟩, seen, ?_⟩
      · rwa [findOverdue, ← same]
      · rw [← planned]
        exact Script.movesThenReads_prepare found e.defaultTemplate
    · cases rest with
      | nil =>
        rw [eq_of_answer script.1 answered]
        exact .inr ⟨made, [], planned, readable, seen, script.2 reply⟩
      | cons m rest =>
        obtain ⟨rfl, script⟩ := script
        cases answered
        refine .inr ⟨made ++ [m], rest, ?_, readable, ?_, script ()⟩
        · rw [planned, List.append_assoc, List.singleton_append]
        · rw [carriedOut_append]
          exact shows.moves m.1 m.2 seen
  | refuse => exact underway.failed _
  | fail => exact underway.failed _
  | dispatch => trivial
  | deliver => trivial
  | report => trivial

/-- What others do that is not seen changes nothing about it. -/
theorem Underway.of_view (underway : task.Underway view e user today s w)
    (unseen : ∀ a, view a w → view a w') : task.Underway view e user today s w' := by
  cases task with
  | preparing work =>
    rcases underway with ⟨seen, same⟩ | ⟨made, rest, planned, readable, seen, script⟩
    · exact .inl ⟨unseen _ seen, same⟩
    · exact .inr ⟨made, rest, planned, readable, unseen _ seen, script⟩
  | dispatching p crew => trivial
  | finished result =>
    cases result with
    | ok report => trivial
    | error failure =>
      rcases underway with seen | ⟨made, planned, readable, seen⟩
      · exact .inl (unseen _ seen)
      · exact .inr ⟨made, planned, readable, unseen _ seen⟩

end UserTask

/-! ### The run after it -/

namespace Script

variable {desk : Desk} {s : Store} {user : Int} {today : Date} {made rest : List (Int × Date)}

/-- **Moving subscriptions forward after the first moves** makes the others. -/
theorem run_advanceUser_partly (readable : ∃ subs, s.findOverdue user today = .ok subs)
    (planned : s.plan user today = made ++ rest) (asks : desk (.findOverdue user today) = none)
    (passes : ∀ m ∈ made, desk (.updateNextOccurrence m.1 m.2) = none) :
    (advanceUser user today).run desk s =
      (((advanceUser user today).run desk (s.carriedOut made)).1.map (· + made.length),
        ((advanceUser user today).run desk (s.carriedOut made)).2) := by
  obtain ⟨left, subs', found'⟩ := plan_carriedOut readable planned
  obtain ⟨subs, found⟩ := readable
  rw [run_advanceUser_eq desk s, run_advanceUser_eq desk (s.carriedOut made)]
  simp only [serve, asks, answer, found, found']
  rw [planned, left]
  exact run_carryOut_append passes rest s

/-- **A preparation after the first moves** finds the same and leaves the same store. It counts the
moves that it makes itself. -/
theorem run_prepare_partly (readable : ∃ subs, s.findOverdue user today = .ok subs)
    (planned : s.plan user today = made ++ rest) (asks : desk (.findOverdue user today) = none)
    (passes : ∀ m ∈ made, desk (.updateNextOccurrence m.1 m.2) = none) (defaultTemplate : String) :
    (prepare defaultTemplate user today).run desk s =
      (((prepare defaultTemplate user today).run desk (s.carriedOut made)).1.map
        fun p => { p with advanced := p.advanced + made.length },
          ((prepare defaultTemplate user today).run desk (s.carriedOut made)).2) := by
  rw [prepare, run_bind, run_bind, run_advanceUser_partly readable planned asks passes]
  cases (advanceUser user today).run desk (s.carriedOut made) with
  | mk result t =>
    cases result with
    | error failure => rfl
    | ok n =>
      simp only [Except.map]
      rw [run_findings _ _ _ n, run_findings _ _ _ (n + made.length)]
      cases (findings defaultTemplate user today 0).run desk t with
      | mk found t' => cases found <;> rfl

end Script

/-- The preparation without the number of subscriptions that moved. -/
def Preparation.unmoved (p : Preparation) : Preparation := { p with advanced := 0 }

namespace Engine

variable {e : Engine} {desk : Desk} {user : Int} {today : Date} {s t : Store}
  {made : List (Int × Date)} {failure : Failure}

/-- The run of a user on a day goes from one store as it goes from another one, when the same calls
are refused: it finds the same reminders due, and leaves the same store before it sends; it ends in
the same worlds, whoever takes the turns, and so does the run that sends one job after the other.
Only the number of subscriptions that move may be another one. -/
structure EndsAlike (e : Engine) (desk : Desk) (user : Int) (today : Date) (s t : Store) :
    Prop where
  finds : ((Script.prepare e.defaultTemplate user today).run desk t).1.map (·.unmoved) =
    ((Script.prepare e.defaultTemplate user today).run desk s).1.map (·.unmoved)
  leaves : ((Script.prepare e.defaultTemplate user today).run desk t).2 =
    ((Script.prepare e.defaultTemplate user today).run desk s).2
  turns : ∀ allowed : Turn → Prop, (∀ turn, allowed turn → turn.desk = desk) → ∀ last,
    (∀ result', UserTask.Reaches e allowed (.start e user today, ⟨t, []⟩)
        (.finished result', last) →
      ∃ result, UserTask.Reaches e allowed (.start e user today, ⟨s, []⟩)
        (.finished result, last) ∧ SameButAdvanced result result') ∧
    (∀ result, UserTask.Reaches e allowed (.start e user today, ⟨s, []⟩)
        (.finished result, last) →
      ∃ result', UserTask.Reaches e allowed (.start e user today, ⟨t, []⟩)
        (.finished result', last) ∧ SameButAdvanced result result')
  alone : ∀ sender now,
    SameButAdvanced (e.runUser sender desk now s user today).result
        (e.runUser sender desk now t user today).result ∧
      (e.runUser sender desk now t user today).sent =
        (e.runUser sender desk now s user today).sent ∧
      (e.runUser sender desk now t user today).store =
        (e.runUser sender desk now s user today).store

/-- **A run goes on from what its preparation finds.** -/
theorem endsAlike_of_prepare
    (finds : ((Script.prepare e.defaultTemplate user today).run desk t).1.map (·.unmoved) =
      ((Script.prepare e.defaultTemplate user today).run desk s).1.map (·.unmoved))
    (leaves : ((Script.prepare e.defaultTemplate user today).run desk t).2 =
      ((Script.prepare e.defaultTemplate user today).run desk s).2) :
    e.EndsAlike desk user today s t := by
  refine ⟨finds, leaves, ?_, ?_⟩
  · intro allowed same last
    have ran : (Script.prepare e.defaultTemplate user today).run desk s =
        (((Script.prepare e.defaultTemplate user today).run desk s).1,
          ((Script.prepare e.defaultTemplate user today).run desk t).2) := Prod.ext rfl leaves.symm
    constructor
    · intro result' reached
      obtain ⟨result, reached, alike, -⟩ :=
        UserTask.reaches_alike same ran rfl finds.symm reached
      exact ⟨result, reached, alike⟩
    · intro result reached
      obtain ⟨result', reached, alike, -⟩ := UserTask.reaches_alike same rfl ran finds reached
      exact ⟨result', reached, alike.symm⟩
  · intro sender now
    unfold runUser
    cases ran : (Script.prepare e.defaultTemplate user today).run desk s with
    | mk result store =>
      cases ran' : (Script.prepare e.defaultTemplate user today).run desk t with
      | mk result' store' =>
        rw [ran, ran'] at finds leaves
        cases leaves
        cases result with
        | error failure =>
          cases result' with
          | error failure' =>
            cases finds
            exact ⟨rfl, rfl, rfl⟩
          | ok p' => cases finds
        | ok p =>
          cases result' with
          | error failure' => cases finds
          | ok p' =>
            have found := Except.ok.inj finds
            simp only [Preparation.unmoved, Preparation.mk.injEq, true_and] at found
            obtain ⟨due, candidates⟩ := found
            have jobs : p'.jobs = p.jobs := by rw [Preparation.jobs, Preparation.jobs, candidates]
            simp only [jobs, and_self, and_true]
            refine congrArg Except.ok ?_
            simp only [UserReport.unmoved, Preparation.report, due, candidates]

/-- What a failed run leaves of a store: of the moves that bring the user's overdue subscriptions up
to date it has made the first, and nothing else is another one. Every subscription is where it was,
or where a rollover moves it, so that a rollover leads to the same store as before, and so does a
run, as long as the query for overdue subscriptions and the moves that were made are let through. -/
structure LeavesOff (e : Engine) (user : Int) (today : Date) (made : List (Int × Date))
    (s t : Store) : Prop where
  planned : made <+: s.plan user today
  carried : t = s.carriedOut made
  tables : s.SameButDates t
  rows : List.Forall₂ (Row.Advanced user today) s.subscriptions.rows t.subscriptions.rows
  rollover : ((Script.advanceUser user today).run .open t).2 =
    ((Script.advanceUser user today).run .open s).2
  later : ∀ desk : Desk, desk (.findOverdue user today) = none →
    (∀ m ∈ made, desk (.updateNextOccurrence m.1 m.2) = none) → e.EndsAlike desk user today s t

theorem leavesOff_nil (e : Engine) (user : Int) (today : Date) (s : Store) :
    e.LeavesOff user today [] s s where
  planned := List.nil_prefix
  carried := rfl
  tables := .refl s
  rows := List.forall₂_same.mpr fun _ _ => .inl rfl
  rollover := rfl
  later _ _ _ := endsAlike_of_prepare rfl rfl

theorem leavesOff_carriedOut (e : Engine) (readable : ∃ subs, s.findOverdue user today = .ok subs)
    (planned : made <+: s.plan user today) : e.LeavesOff user today made s (s.carriedOut made) := by
  obtain ⟨rest, split⟩ := planned
  have among : ∀ m ∈ made, m ∈ s.plan user today := by
    rw [← split]
    exact fun m mem => List.mem_append_left rest mem
  refine ⟨⟨rest, split⟩, rfl, s.sameButDates_carriedOut made, ?_, ?_, ?_⟩
  · rw [rows_carriedOut among, List.forall₂_map_right_iff, List.forall₂_same]
    intro r _
    split
    · exact r.advanced_broughtUpTo user today
    · exact .inl rfl
  · exact (congrArg Prod.snd
      (Script.run_advanceUser_partly readable split.symm rfl fun _ _ => rfl)).symm
  · intro desk asks passes
    have ran := Script.run_prepare_partly readable split.symm asks passes e.defaultTemplate
    refine endsAlike_of_prepare ?_ (congrArg Prod.snd ran).symm
    rw [ran]
    cases ((Script.prepare e.defaultTemplate user today).run desk (s.carriedOut made)).1 <;> rfl

end Engine

/-! ### Failed runs -/

namespace UserTask

variable {view : Store → World → Prop} {e : Engine} {user : Int} {today : Date} {s : Store}
  {w last : World} {failure : Failure}

/-- What a failed run is seen to leave. -/
theorem Underway.leavesOff
    (underway : (finished (.error failure)).Underway view e user today s w) :
    ∃ made t, e.LeavesOff user today made s t ∧ view t w := by
  rcases underway with seen | ⟨made, planned, readable, seen⟩
  · exact ⟨[], s, e.leavesOff_nil user today s, seen⟩
  · exact ⟨made, _, e.leavesOff_carriedOut readable planned, seen⟩

/-- **What a failed run leaves** when nobody else is at work: the moves that it made. -/
theorem leavesOff_of_runs
    (ran : Runs (UserTask.step e) (.start e user today, w) (.finished (.error failure), last)) :
    last.events = w.events ∧ ∃ made, e.LeavesOff user today made w.store last.store := by
  have shows : World.Shows user fun a w' => w' = { w with store := a } := by
    refine ⟨?_, ?_⟩
    · rintro a _ rfl
      rfl
    · rintro a _ id d rfl
      rfl
  have underway : ∀ b : UserTask × World, Runs (UserTask.step e) (.start e user today, w) b →
      b.1.Underway (fun a w' => w' = { w with store := a }) e user today w.store b.2 := by
    intro b ran
    induction ran with
    | refl => exact underway_start rfl e user today
    | tail _ led ih =>
      obtain ⟨t, stepped⟩ := led
      exact ih.step shows stepped
  obtain ⟨made, t, leaves, rfl⟩ := (underway _ ran).leavesOff
  exact ⟨rfl, made, leaves⟩

end UserTask

namespace Engine

variable {e : Engine} {allowed : Turn → Prop} {user : Int} {today : Date} {s : Store} {r : Round}
  {w : World} {failure : Failure}

/-- Seen by a user, the world has the user's part of the store, and nothing was sent or logged for
the user since it had another store. -/
def IdleFor (user : Int) (s a : Store) (w : World) : Prop :=
  Store.SameFor user a w.store ∧ w.Silent user (s.logFor user)

/-- **What a failed run leaves** when others are at work: of the user's part, the moves that it
made. -/
theorem TicksTo.leavesOff (ticks : e.TicksTo allowed today s r w)
    (failed : (user, .finished (.error failure)) ∈ r.tasks e today) :
    ∃ made t, e.LeavesOff user today made s t ∧ IdleFor user s t w := by
  have shows (user : Int) : World.Shows user (IdleFor user s) := by
    refine ⟨fun seen => seen.1.subscriptions, ?_⟩
    rintro a w id d ⟨same, calls, log⟩
    exact ⟨same.updateNextOccurrence id d, calls, log⟩
  have kept : UserTask.Kept e allowed fun user task w => task.Confined user w.store ∧
      task.Underway (IdleFor user s) e user today s w := by
    refine ⟨?_, ?_, And.left⟩
    · rintro t user task task' w w' - ⟨confined, underway⟩ stepped
      exact ⟨(confined.step stepped).1, underway.step (shows user) stepped⟩
    · rintro user task w w' ⟨confined, underway⟩ same
      refine ⟨confined.sameFor same.store, underway.of_view fun a seen => ?_⟩
      exact ⟨seen.1.trans same.store, seen.2.sameFor same⟩
  obtain ⟨order, -, beside, -⟩ := ticks.beside kept fun user =>
    ⟨UserTask.confined_start e user today s,
      UserTask.underway_start ⟨.refl user s, rfl, rfl⟩ e user today⟩
  exact (beside.holds _ failed).2.leavesOff

/-- **A failed run sends nothing.** Whichever calls fail and whoever takes the turns: a run that
ends with a failure has called no sender and has written nothing into the log. All that it leaves is
that some overdue subscriptions of its user have moved forward, each to where a rollover moves it,
and a run on the same day, which may fail itself, goes as if the failed one had not been there. It
is so for a run alone, turn by turn, for the run that sends one job after the other, and for the run
of a user in a tick, where others are at work on their own parts of the store. -/
theorem failed_run_sends_nothing (e : Engine) (user : Int) (today : Date) (failure : Failure) :
    (∀ w last, Runs (UserTask.step e) (.start e user today, w) (.finished (.error failure), last) →
      last.events = w.events ∧ last.store.logs = w.store.logs ∧
        ∃ made, e.LeavesOff user today made w.store last.store) ∧
    (∀ sender desk now s, (e.runUser sender desk now s user today).result = .error failure →
      (e.runUser sender desk now s user today).sent = [] ∧
        (e.runUser sender desk now s user today).store.logs = s.logs ∧
          ∃ made, e.LeavesOff user today made s (e.runUser sender desk now s user today).store) ∧
    ∀ allowed s r w, e.TicksTo allowed today s r w →
      (user, .finished (.error failure)) ∈ r.tasks e today →
        w.callsFor user = [] ∧ w.store.logFor user = s.logFor user ∧
          ∃ made t, e.LeavesOff user today made s t ∧ Store.SameFor user t w.store ∧
            ∀ desk : Desk, desk (.findOverdue user today) = none →
              (∀ m ∈ made, desk (.updateNextOccurrence m.1 m.2) = none) →
                ((Script.prepare e.defaultTemplate user today).run desk w.store).1.map (·.unmoved) =
                  ((Script.prepare e.defaultTemplate user today).run desk s).1.map (·.unmoved) := by
  refine ⟨?_, ?_, ?_⟩
  · intro w last ran
    obtain ⟨events, made, leaves⟩ := UserTask.leavesOff_of_runs ran
    exact ⟨events, leaves.tables.logs, made, leaves⟩
  · intro sender desk now s failed
    obtain ⟨events, ran, calls⟩ := e.runs_runUser sender desk now ⟨s, []⟩ user today
    simp only [failed] at ran
    obtain ⟨none, made, leaves⟩ := UserTask.leavesOff_of_runs (.of_repeats ran)
    refine ⟨?_, leaves.tables.logs, made, leaves⟩
    rw [show events = [] from none] at calls
    exact calls.symm
  · intro allowed s r w ticks failed
    obtain ⟨made, t, leaves, same, calls, log⟩ := ticks.leavesOff failed
    refine ⟨calls, log, made, t, leaves, same, fun desk asks passes => ?_⟩
    rw [← (leaves.later desk asks passes).finds]
    exact congrArg _
      (Script.run_agree (Script.confined_prepare e.defaultTemplate user today t) same desk).1

end Engine

namespace Sample

/-- A desk that refuses to look up policies. -/
def noPolicies : Desk
  | .findPolicy _ => some "no such table"
  | _ => none

end Sample

namespace Engine

/-- A run moves a daily subscription forward and fails when it looks up the policy of the user. The
run after it finds nothing to move and sends the reminder. -/
theorem failed_run_sends_nothing_sample :
    ∃ last, Runs (UserTask.step Sample.engine) (.start Sample.engine 1 Sample.today,
        ⟨Sample.subscribed .day "2026-02-01", []⟩)
        (.finished (.error (.database (.refused "no such table"))), last) ∧
      last.events = [] ∧
      last.store = (Sample.subscribed .day "2026-02-01").carriedOut [(1, Sample.today)] ∧
      (Sample.engine.runUser Sample.sender .open Sample.noon last.store 1 Sample.today).result =
        .ok ⟨0, 1, 0, 0, ⟨1, 0, 0⟩⟩ := by
  obtain ⟨events, ran, -⟩ := Sample.engine.runs_runUser Sample.sender Sample.noPolicies Sample.noon
    ⟨Sample.subscribed .day "2026-02-01", []⟩ 1 Sample.today
  have failed : (Sample.engine.runUser Sample.sender Sample.noPolicies Sample.noon
      (Sample.subscribed .day "2026-02-01") 1 Sample.today).result =
        .error (.database (.refused "no such table")) := by decide +kernel
  have moved : (Sample.subscribed .day "2026-02-01").plan 1 Sample.today = [(1, Sample.today)] := by
    decide +kernel
  have there : (Sample.engine.runUser Sample.sender Sample.noPolicies Sample.noon
      (Sample.subscribed .day "2026-02-01") 1 Sample.today).store.subscriptions.rows.all
        fun r => decide ((r.cell .nextOccurrence).IsText "2026-03-01") := by decide +kernel
  have later : (Sample.engine.runUser Sample.sender .open Sample.noon
      (Sample.engine.runUser Sample.sender Sample.noPolicies Sample.noon
        (Sample.subscribed .day "2026-02-01") 1 Sample.today).store 1 Sample.today).result =
          .ok ⟨0, 1, 0, 0, ⟨1, 0, 0⟩⟩ := by decide +kernel
  simp only [failed] at ran
  have runs := Runs.of_repeats ran
  obtain ⟨none, -, made, leaves⟩ :=
    (failed_run_sends_nothing Sample.engine 1 Sample.today _).1 _ _ runs
  refine ⟨_, runs, none, ?_, later⟩
  obtain ⟨rest, split⟩ := leaves.planned
  simp only [moved] at split
  cases made with
  | nil =>
    have same : (Sample.engine.runUser Sample.sender Sample.noPolicies Sample.noon
        (Sample.subscribed .day "2026-02-01") 1 Sample.today).store =
          Sample.subscribed .day "2026-02-01" := leaves.carried
    rw [same] at there
    exact absurd there (by decide +kernel)
  | cons m made =>
    obtain ⟨rfl, more⟩ := List.cons.inj split
    rw [← (List.append_eq_nil_iff.mp more).1]
    exact leaves.carried

end Engine

end Reminders
