import Reminders.Proofs.Scheduler.AtMostOnce
import Reminders.Proofs.Scheduler.Tasks
import Reminders.Scheduler.Work

/-!
Schedules only move forward.

Whatever the scheduler works on, in whatever order and on whatever days, it writes one kind of thing
into the subscriptions: a later charge of what a row says just before it is written.

* `Work.Confined.step`: every turn of a piece of work moves one date at most.
* `Scheduler.dates_move_forward`: what happens to the subscriptions over any time.
* `Scheduler.months_drift`: what happens to the day of the month.
-/

namespace Reminders

open Store

/-! ### Pieces of work -/

/-- What is left after the next call of a confined script is confined. -/
theorem Script.Confined.next {user : Int} {post : α → Store → Prop} {x x' : Script α} {desk : Desk}
    {s s' : Store} (confined : x.Confined user post s) (stepped : x.next desk s = some (x', s')) :
    x'.Confined user post s' ∧ s.Moves s' := by
  rcases next_eq_some stepped with ⟨call, next, reply, rfl, answered, rfl⟩ | ⟨failure, rfl, rfl⟩
  · obtain ⟨permits, rest⟩ := confined
    exact ⟨rest reply s' answered, moves_of_answer permits answered⟩
  · exact ⟨trivial, .refl _⟩

namespace Work

variable {t : Turn} {work work' : Work} {world world' : World}

/-- The work keeps to the parts of its users. -/
def Confined (s : Store) : Work → Prop
  | .tick e today round => ((round.tasks e today).map Prod.fst).Nodup ∧
      ∀ p ∈ round.tasks e today, p.2.Confined p.1 s
  | .run _ user task => task.Confined user s
  | .advance user rest => rest.Confined user (fun _ _ => True) s
  | .dashboard user rest => rest.Confined user (fun _ _ => True) s

/-- The runs of a new tick are confined. -/
theorem confined_start (e : Engine) (today : Date) {s : Store} {users : List Int}
    (listed : s.listUsers = .ok users) : Confined s (.tick e today (.start e users)) := by
  constructor
  · rw [Round.map_fst_tasks_start]
    exact nodup_listUsers listed
  · intro p mem
    rw [Round.tasks_start] at mem
    obtain ⟨user, -, rfl⟩ := List.mem_map.mp mem
    exact UserTask.confined_start e user today s

/-- **Every turn of a piece of work** moves one date at most, to a later charge. -/
theorem Confined.step (confined : work.Confined world.store)
    (stepped : work.step t world = some (work', world')) :
    work'.Confined world'.store ∧ world.store.Moves world'.store := by
  cases work with
  | tick e today round =>
    obtain ⟨⟨round', after⟩, moved, same⟩ := Option.map_eq_some_iff.mp stepped
    cases same
    have move := Round.step_eq_some_iff.mp moved
    obtain ⟨distinct, all⟩ := confined
    refine ⟨⟨?_, ?_⟩, ?_⟩
    · rcases move.tasks with ⟨_, _, _, _, before, after, -⟩ | ⟨same, -⟩
      · exact (after.map Prod.fst).nodup_iff.mpr ((before.map Prod.fst).nodup_iff.mp distinct)
      · exact (same.map Prod.fst).nodup_iff.mpr distinct
    · refine Round.keeps (I := fun user task world => task.Confined user world.store) ?_ distinct all
        move
      intro user task task' world world' own stepped
      obtain ⟨kept, -, others⟩ := own.step stepped
      exact ⟨kept, fun other _ different theirs => theirs.sameFor (others other different)⟩
    · rcases move.tasks with ⟨user, task, task', rest, before, -, step⟩ | ⟨-, same⟩
      · exact ((all _ (before.mem_iff.mpr List.mem_cons_self)).step step).2.1
      · simp only at same
        rw [same]
        exact .refl _
  | run e user task =>
    obtain ⟨⟨task', after⟩, moved, same⟩ := Option.map_eq_some_iff.mp stepped
    cases same
    obtain ⟨kept, moves, -⟩ := UserTask.Confined.step confined moved
    exact ⟨kept, moves⟩
  | advance user rest =>
    obtain ⟨⟨rest', store⟩, moved, same⟩ := Option.map_eq_some_iff.mp stepped
    cases same
    exact Script.Confined.next confined moved
  | dashboard user rest =>
    obtain ⟨⟨rest', store⟩, moved, same⟩ := Option.map_eq_some_iff.mp stepped
    cases same
    exact Script.Confined.next confined moved

end Work

namespace Scheduler

variable {start now later next : Scheduler}

/-- The work that goes on is confined. -/
def Confined (now : Scheduler) : Prop := ∀ work, now.work = some work → work.Confined now.world.store

/-- **Every step** keeps the work confined and moves one date at most. -/
theorem Confined.step (confined : now.Confined) (step : Step now next) :
    next.Confined ∧ now.world.store.Moves next.world.store := by
  cases step with
  | tick e today listed =>
    refine ⟨?_, .refl _⟩
    rintro _ ⟨⟩
    exact Work.confined_start e today listed
  | run e user today world =>
    refine ⟨?_, .refl _⟩
    rintro _ ⟨⟩
    exact UserTask.confined_start e user today world.store
  | advance user today world =>
    refine ⟨?_, .refl _⟩
    rintro _ ⟨⟩
    exact Script.confined_advanceUser user today world.store
  | dashboard user today world =>
    refine ⟨?_, .refl _⟩
    rintro _ ⟨⟩
    exact Script.confined_summary user today world.store
  | turn t stepped =>
    obtain ⟨kept, moves⟩ := (confined _ rfl).step stepped
    refine ⟨?_, moves⟩
    rintro _ ⟨⟩
    exact kept
  | stop work world => exact ⟨fun _ working => (nomatch working), .refl _⟩

/-- Over any time every row is reached by moves. -/
theorem Confined.reached (confined : now.Confined) (went : Relation.ReflTransGen Step now later) :
    later.Confined ∧
      List.Forall₂ Row.Reached now.world.store.subscriptions.rows
        later.world.store.subscriptions.rows := by
  induction went with
  | refl => exact ⟨confined, List.forall₂_same.mpr fun _ _ => .refl⟩
  | tail _ step ih =>
    obtain ⟨confined, rows⟩ := ih
    obtain ⟨kept, moves⟩ := confined.step step
    exact ⟨kept, forall₂_trans .trans rows moves.forall₂⟩

theorem confined_of_idle (idle : start.work = none) : start.Confined := by
  intro work working
  rw [idle] at working
  cases working

/-- What is left of a row later on. -/
theorem exists_reached {r : Row SubscriptionColumn} (confined : now.Confined)
    (went : Relation.ReflTransGen Step now later) (mem : r ∈ now.world.store.subscriptions.rows) :
    ∃ r' ∈ later.world.store.subscriptions.rows, Row.Reached r r' := by
  have rows := (confined.reached went).2
  obtain ⟨i, lt, rfl⟩ := List.mem_iff_getElem.mp mem
  obtain ⟨length, all⟩ := List.forall₂_iff_get.mp rows
  exact ⟨_, List.get_mem _ _, all i lt (length ▸ lt)⟩

/-! ### Work without interruption -/

/-- A script that nothing interrupts is played to its end. -/
theorem reaches_advance_run (t : Turn) (user : Int) (rest : Script Nat) (world : World) :
    ∃ last, Relation.ReflTransGen Step ⟨world, some (.advance user rest)⟩
      ⟨{ world with store := (rest.run t.desk world.store).2 }, some (.advance user last)⟩ := by
  induction rest generalizing world with
  | done a => exact ⟨.done a, .refl⟩
  | fail failure => exact ⟨.fail failure, .refl⟩
  | ask call next ih =>
    cases served : world.store.serve t.desk call with
    | error e =>
      refine ⟨.fail (.database e), .single (.turn t ?_)⟩
      simp only [Work.step, Script.next, Script.run, served, Option.map_some]
    | ok reply =>
      obtain ⟨last, ran⟩ := ih reply.1 { world with store := reply.2 }
      have stepped : Work.step t (.advance user (.ask call next)) world =
          some (.advance user (next reply.1), { world with store := reply.2 }) := by
        simp only [Work.step, Script.next, served, Option.map_some]
      refine ⟨last, .head (.turn t stepped) ?_⟩
      simpa only [Script.run, served] using ran

/-- Moving the subscriptions of a user forward, without interruption, is one of the things that the
scheduler may do. -/
theorem reaches_rolledOver (user : Int) (today : Date) (world : World) :
    Relation.ReflTransGen Step ⟨world, none⟩
      ⟨{ world with store := world.store.rolledOver user today }, none⟩ := by
  obtain ⟨last, ran⟩ := reaches_advance_run (.first (fun _ _ _ => ⟨0, .ok ()⟩) .open (.startOf today))
    user (Script.advanceUser user today) world
  exact .head (.advance user today world) (ran.tail (.stop _ _))

end Scheduler

/-! ### A store with one subscription -/

namespace Sample

/-- A day of the calendar. -/
def day (year : Int) (month day : Nat) : Date := (Date.ofYmd? year month day).getD today

/-- The cells of a subscription of the first user that charges once a `unit`. -/
def cells (unit : IntervalUnit) (stored : String) : SubscriptionColumn → Cell
  | .userId => .integer 1
  | .name => .text "Music"
  | .billingType => .text BillingType.recurring.tag
  | .recurrenceType => .text RecurrenceType.interval.tag
  | .intervalCount => .integer 1
  | .intervalUnit => .text unit.tag
  | .nextOccurrence => .text stored
  | .amount => .integer 10
  | .currency => .text "EUR"
  | .enabled => .integer 1
  | _ => .null

/-- A store with this subscription. -/
def subscribed (unit : IntervalUnit) (stored : String) : Store :=
  { store with subscriptions := ⟨[⟨1, cells unit stored⟩], 1, by simp, by simp⟩ }

/-- The row holds a subscription with a property. -/
def Holds (r : Row SubscriptionColumn) (p : Subscription → Prop) : Prop :=
  ∃ sub, Subscription.ofRow r = .ok (.ok sub) ∧ p sub

instance (r : Row SubscriptionColumn) (p : Subscription → Prop) [DecidablePred p] :
    Decidable (Holds r p) :=
  match read : Subscription.ofRow r with
  | .ok (.ok sub) => decidable_of_iff (p sub)
      ⟨fun h => ⟨sub, read, h⟩, fun ⟨_, same, h⟩ => by cases read.symm.trans same; exact h⟩
  | .ok (.error _) => .isFalse fun ⟨_, same, _⟩ => nomatch read.symm.trans same
  | .error _ => .isFalse fun ⟨_, same, _⟩ => nomatch read.symm.trans same

end Sample

namespace Scheduler

variable {start now later : Scheduler}

/-! ### The subscriptions over any time -/

/-- **Schedules only move forward, and nothing else moves.** Whatever the scheduler works on, on
whatever days: each step leaves the subscriptions as they are or replaces the date of one of them by
a later charge of what its row says just before. Over any time each row is the same, or it holds a
subscription with a schedule whose date has become a later one, and no other column has changed. -/
theorem dates_move_forward (idle : start.work = none)
    (reached : Relation.ReflTransGen Step start now) (went : Relation.ReflTransGen Step now later) :
    (∀ next, Step now next → now.world.store.Moves next.world.store) ∧
      List.Forall₂ (fun r r' => r' = r ∨ ∃ sub stored d, Subscription.ofRow r = .ok (.ok sub) ∧
          sub.HasValidSchedule ∧ sub.nextOccurrence = some stored ∧ stored < d ∧ r' = r.movedTo d ∧
            Subscription.ofRow r' = .ok (.ok (sub.movedTo d)))
        now.world.store.subscriptions.rows later.world.store.subscriptions.rows := by
  have confined := ((confined_of_idle idle).reached reached).1
  refine ⟨fun next step => (confined.step step).2, ?_⟩
  exact (confined.reached went).2.imp fun _ _ moved => moved.eq_or

/-- A weekly subscription that is brought up to date after four weeks. -/
theorem dates_move_forward_sample :
    ∃ later, Relation.ReflTransGen Step ⟨⟨Sample.subscribed .week "2026-02-01", []⟩, none⟩ later ∧
      (∃ r ∈ later.world.store.subscriptions.rows,
        (r.cell .nextOccurrence).IsText "2026-03-01") ∧
      List.Forall₂ (fun r r' => r' = r ∨ ∃ sub stored d, Subscription.ofRow r = .ok (.ok sub) ∧
          sub.HasValidSchedule ∧ sub.nextOccurrence = some stored ∧ stored < d ∧ r' = r.movedTo d ∧
            Subscription.ofRow r' = .ok (.ok (sub.movedTo d)))
        (Sample.subscribed .week "2026-02-01").subscriptions.rows
        later.world.store.subscriptions.rows := by
  have moved : ∃ r ∈ ((Sample.subscribed .week "2026-02-01").rolledOver 1
      Sample.today).subscriptions.rows,
      (r.cell .nextOccurrence).IsText "2026-03-01" := by decide +kernel
  have went := reaches_rolledOver 1 Sample.today ⟨Sample.subscribed .week "2026-02-01", []⟩
  exact ⟨_, went, moved, (dates_move_forward rfl .refl went).2⟩

/-- **The drift of the day of the month is bounded.** When the intervals of a subscription are `step`
months long, every date that is stored for it lies a multiple of `step` months after the first one,
on a day no later than the first and no earlier than the last day that every month has, and never on
a later day than a date stored before it: for rollovers one after the other, and for whatever else
the scheduler works on in between. -/
theorem months_drift :
    (∀ (sub : Subscription) (step : Nat) (a : Date) (days : List Date), sub.StepsByMonths step →
      sub.nextOccurrence = some a → ∃ dates : List Date,
        (days.scanl Subscription.rolledOver sub).map (·.nextOccurrence) = dates.map some ∧
          (∀ d ∈ dates, a.Drifts step d) ∧ dates.Pairwise fun d e => e.day ≤ d.day) ∧
      ∀ (start now later : Scheduler) (r : Row SubscriptionColumn) (sub : Subscription) (step : Nat)
        (a : Date), start.work = none → Relation.ReflTransGen Step start now →
          Relation.ReflTransGen Step now later → r ∈ start.world.store.subscriptions.rows →
          Subscription.ofRow r = .ok (.ok sub) → sub.StepsByMonths step →
          sub.nextOccurrence = some a →
          ∃ r₁ ∈ now.world.store.subscriptions.rows, ∃ r₂ ∈ later.world.store.subscriptions.rows,
            ∃ d₁ d₂, r₁.id = r.id ∧ r₂.id = r.id ∧
              Subscription.ofRow r₁ = .ok (.ok (sub.movedTo d₁)) ∧
              Subscription.ofRow r₂ = .ok (.ok (sub.movedTo d₂)) ∧
              a.Drifts step d₁ ∧ a.Drifts step d₂ ∧ d₂.day ≤ d₁.day := by
  constructor
  · intro sub step a days steps stored
    exact Subscription.exists_drifts_scanl steps stored days
  · intro start now later r sub step a idle reached went mem read steps stored
    have confined := confined_of_idle idle
    obtain ⟨r₁, mem₁, moved₁⟩ := exists_reached confined reached mem
    obtain ⟨r₂, mem₂, moved₂⟩ := exists_reached (confined.reached reached).1 went mem₁
    obtain ⟨d₁, read₁, drifts₁⟩ := moved₁.drifts read steps stored
    obtain ⟨d₂, read₂, drifts₂⟩ := moved₂.drifts read₁ (steps.movedTo d₁) rfl
    exact ⟨r₁, mem₁, r₂, mem₂, d₁, d₂, moved₁.id_eq, moved₂.id_eq.trans moved₁.id_eq, read₁, read₂,
      drifts₁, drifts₁.trans drifts₂, drifts₂.high⟩

/-- A monthly subscription that falls from the 31st to the 28th and stays there. -/
theorem months_drift_sample :
    ∃ (now later : Scheduler) (a d₁ d₂ : Date), Relation.ReflTransGen Step
        ⟨⟨Sample.subscribed .month "2026-01-31", []⟩, none⟩ now ∧
      Relation.ReflTransGen Step now later ∧
      (∃ r ∈ now.world.store.subscriptions.rows, (r.cell .nextOccurrence).IsText "2026-02-28") ∧
      (∃ r ∈ now.world.store.subscriptions.rows,
        Sample.Holds r fun sub => sub.nextOccurrence = some d₁) ∧
      (∃ r ∈ later.world.store.subscriptions.rows,
        Sample.Holds r fun sub => sub.nextOccurrence = some d₂) ∧
      a.day = 31 ∧ a.Drifts 1 d₁ ∧ a.Drifts 1 d₂ ∧ d₂.day ≤ d₁.day ∧
      ∃ dates : List Date, dates.length = 2 ∧ ∀ d ∈ dates, a.Drifts 1 d := by
  have held : Sample.Holds ⟨1, Sample.cells .month "2026-01-31"⟩ fun sub =>
      sub.nextOccurrence = some (Sample.day 2026 1 31) ∧
        sub.recurrenceType = some .interval ∧ sub.intervalCount = some 1 ∧
          sub.intervalUnit = some .month := by decide +kernel
  have fallen : ∃ r ∈ ((Sample.subscribed .month "2026-01-31").rolledOver 1
      (Sample.day 2026 2 15)).subscriptions.rows,
      (r.cell .nextOccurrence).IsText "2026-02-28" := by decide +kernel
  obtain ⟨sub, read, stored, interval, count, unit⟩ := held
  have reached := reaches_rolledOver 1 (Sample.day 2026 2 15)
    ⟨Sample.subscribed .month "2026-01-31", []⟩
  have went := reaches_rolledOver 1 (Sample.day 2026 3 5)
    ⟨(Sample.subscribed .month "2026-01-31").rolledOver 1 (Sample.day 2026 2 15), []⟩
  obtain ⟨r₁, mem₁, r₂, mem₂, d₁, d₂, -, -, read₁, read₂, drifts₁, drifts₂, falls⟩ :=
    months_drift.2 _ _ _ _ _ 1 _ rfl reached went List.mem_cons_self read
      ⟨interval, 1, count, .inl ⟨unit, rfl⟩⟩ stored
  obtain ⟨dates, same, all, -⟩ := months_drift.1 sub 1 _
    [Sample.day 2026 2 15] ⟨interval, 1, count, .inl ⟨unit, rfl⟩⟩ stored
  have length : dates.length = 2 := by simpa using (congrArg List.length same).symm
  exact ⟨_, _, _, d₁, d₂, reached, went, fallen, ⟨r₁, mem₁, _, read₁, rfl⟩,
    ⟨r₂, mem₂, _, read₂, rfl⟩, rfl, drifts₁, drifts₂, falls, dates, length, all⟩

end Scheduler

end Reminders
