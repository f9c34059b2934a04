import Reminders.Proofs.Scheduler.Downtime
import Reminders.Proofs.Scheduler.Origin

/-!
When reminders are attempted.

A tick calls the sender and writes into the log for charges of the next few days only: for those that
are exactly the lead time away, and for those of the day itself. So a charge is attempted on two days
at most, however many ticks there are.

* `Subscription.inWindow_iff_isDue`: the rule that the policies come to.
* `Script.inWindow_of_mem_jobs`: every job of a preparation is in its window.
* `Store.Worked.settings`: a tick leaves the settings of every subscription as they are.
* `Engine.reminders_keep_their_window`
-/

namespace Reminders

open Store

/-! ### The window -/

namespace Subscription

/-- How many days before a charge the reminder is due: the subscription's own number, else that of
the user's policy, else three, and ten at most. -/
def leadDays (sub : Subscription) (policy : Option Policy) : Nat :=
  min 10 <| match sub.notifyDaysBefore, policy with
    | some days, _ => days.toNat
    | none, some p => p.daysBefore.toNat
    | none, none => 3

/-- A reminder of a charge on a date is in place today: the subscription wants reminders, and the
charge is today, if the user's policy has the day itself count, or as far away as the lead time. -/
structure InWindow (sub : Subscription) (policy : Option Policy) (today date : Date) : Prop where
  wanted : sub.notifyEnabled ≠ some false
  near : 0 ≤ date.daysSince today ∧ date.daysSince today ≤ 10
  exact : (date.daysSince today = 0 ∧ ∀ p, policy = some p → p.onDueDay = true) ∨
    (0 < date.daysSince today ∧ date.daysSince today = sub.leadDays policy)

variable {sub : Subscription} {policy : Option Policy} {today date : Date}

/-- The lead time of the policy that counts, in which the cap comes after the override. -/
theorem toNat_daysBefore_resolve (sub : Subscription) (policy : Option Policy) :
    (EffectivePolicy.resolve sub policy).daysBefore.toNat = sub.leadDays policy := by
  unfold EffectivePolicy.resolve leadDays
  simp only [UInt32.toNat_min]
  rw [Nat.min_comm]
  cases sub.notifyDaysBefore with
  | some days => rfl
  | none => cases policy <;> rfl

/-- **The window is what the policies come to.** -/
theorem inWindow_iff_isDue : sub.InWindow policy today date ↔
    (EffectivePolicy.resolve sub policy).IsDue (date.daysSince today) := by
  have lead := toNat_daysBefore_resolve sub policy
  have capped : sub.leadDays policy ≤ 10 := Nat.min_le_left _ _
  have wanted : (EffectivePolicy.resolve sub policy).enabled = true ↔
      sub.notifyEnabled ≠ some false := by
    unfold EffectivePolicy.resolve
    cases sub.notifyEnabled with
    | none => exact ⟨fun _ => nofun, fun _ => rfl⟩
    | some b => cases b <;> simp
  have onTheDay : (EffectivePolicy.resolve sub policy).onDueDay = true ↔
      ∀ p, policy = some p → p.onDueDay = true := by
    unfold EffectivePolicy.resolve
    cases policy with
    | none =>
      refine ⟨fun _ p h => ?_, fun _ => rfl⟩
      cases h
    | some p => exact ⟨fun h _ same => by cases same; exact h, fun h => h p rfl⟩
  unfold EffectivePolicy.IsDue
  rw [wanted, onTheDay, lead]
  constructor
  · rintro ⟨wanted, near, exact⟩
    refine ⟨wanted, ?_⟩
    rcases exact with ⟨same, counts⟩ | ⟨ahead, same⟩
    · exact .inr ⟨same, counts⟩
    · exact .inl ⟨by omega, same⟩
  · rintro ⟨wanted, ⟨positive, same⟩ | ⟨same, counts⟩⟩
    · exact ⟨wanted, by omega, .inr ⟨by omega, same⟩⟩
    · exact ⟨wanted, by omega, .inl ⟨same, counts⟩⟩

end Subscription

/-- A reminder of the subscription with an id, which is the user's, is in place today: the date is the
one that the subscription has, or the one that a rollover moves it to, and in the window. -/
def Store.InWindow (s : Store) (user : Int) (today : Date) (id : Int) (date : Date) : Prop :=
  ∃ r ∈ s.subscriptions.rows, r.id = id ∧ (r.cell .userId).IsInt user ∧ ∃ sub policy,
    Subscription.ofRow r = .ok (.ok sub) ∧ s.findPolicy user = .ok policy ∧
      (sub.nextOccurrence = some date ∨ sub.rollover? today = some date) ∧
        sub.InWindow policy today date

/-! ### Jobs -/

namespace Script

variable {s : Store} {user : Int} {today : Date}

/-- A row after the user's subscriptions were moved forward is one from before, perhaps moved. -/
theorem exists_of_mem_rows_advanceUser {r' : Row SubscriptionColumn}
    (mem : r' ∈ ((advanceUser user today).run .open s).2.subscriptions.rows) :
    ∃ r ∈ s.subscriptions.rows, r' = r ∨ ∃ sub d, Subscription.ofRow r = .ok (.ok sub) ∧
      sub.rollover? today = some d ∧ r' = r.movedTo d := by
  cases found : s.findOverdue user today with
  | error e =>
    rw [rows_advanceUser_of_error found] at mem
    exact ⟨r', mem, .inl rfl⟩
  | ok subs =>
    rw [rows_advanceUser found] at mem
    obtain ⟨r, held, rfl⟩ := List.mem_map.mp mem
    refine ⟨r, held, ?_⟩
    rcases Row.broughtUpTo_eq_or user today r with same | ⟨sub, stored, d, read, -, dated, next,
      later, same⟩
    · exact .inl same
    · exact .inr ⟨sub, d, read,
        Subscription.rollover?_eq_some_iff.mpr ⟨stored, dated, next, later⟩, same⟩

/-- **Every job of a preparation is in its window.** -/
theorem inWindow_of_mem_jobs {defaultTemplate : String} {job : Job}
    (mem : job ∈ Preparation.jobsOf ((prepare defaultTemplate user today).run .open s).1) :
    s.InWindow user today job.subscriptionId job.notifyDate := by
  cases prepared : (prepare defaultTemplate user today).run .open s with
  | mk result moved =>
    rw [prepared] at mem
    cases result with
    | error failure => exact absurd mem List.not_mem_nil
    | ok p =>
      obtain ⟨rfl, -⟩ := run_prepare_eq_ok prepared
      obtain ⟨sub, date, channel, address, message, due, -, -, -, -, rfl⟩ :=
        (mem_jobs_iff prepared).mp mem
      obtain ⟨⟨r', mem', owner, -, read', -⟩, dated, policy, found, isDue⟩ := due
      have policies : s.findPolicy user = .ok policy := by
        rw [findPolicy, (run_advanceUser user today .open s).policies] at found
        exact found
      have window := Subscription.inWindow_iff_isDue.mpr isDue
      have id_eq := (Subscription.ofRow_eq_ok_ok read').1
      obtain ⟨r, held, rfl | ⟨old, d, read, moves, rfl⟩⟩ := exists_of_mem_rows_advanceUser mem'
      · exact ⟨r', held, id_eq.symm, owner, sub, policy, read', policies, .inl dated, window⟩
      · cases Except.ok.inj (Except.ok.inj (read'.symm.trans (Subscription.ofRow_movedTo read d)))
        cases dated
        exact ⟨r, held, id_eq.symm, owner, old, policy, read, policies, .inr moves,
          window.wanted, window.near, window.exact⟩

end Script

/-! ### Settings -/

namespace Store

variable {s s' : Store} {user user' id : Int} {today today' date : Date}

/-- What the window of a subscription depends on: its row, but for the date, and the policy row of its
user. -/
def settings (s : Store) (id : Int) : Option (Row SubscriptionColumn × Option (Row PolicyColumn)) :=
  (s.subscriptions.find? id).map fun r =>
    (r.set .nextOccurrence .null,
      match r.cell .userId with
      | .integer user => s.policies.find? user
      | _ => none)

theorem settings_eq {r : Row SubscriptionColumn} (mem : r ∈ s.subscriptions.rows)
    (owner : (r.cell .userId).IsInt user) :
    s.settings r.id = some (r.set .nextOccurrence .null, s.policies.find? user) := by
  have found : s.subscriptions.find? r.id = some r := by
    cases found : s.subscriptions.find? r.id with
    | none => exact absurd (decide_eq_true rfl) (List.find?_eq_none.mp found r mem)
    | some r' =>
      have same : r'.id = r.id := by simpa using List.find?_some found
      rw [Table.eq_of_id_eq (List.mem_of_find?_eq_some found) mem same]
  rw [settings, found, Option.map_some, Cell.isInt_iff.mp owner]

/-- **A tick leaves the settings of every subscription as they are.** -/
theorem Worked.settings (worked : s.Worked s') (id : Int) : s'.settings id = s.settings id := by
  have unset (r : Row SubscriptionColumn) (d : Date) :
      (r.movedTo d).set .nextOccurrence .null = r.set .nextOccurrence .null := by
    refine congrArg (Row.mk r.id) (funext fun k => ?_)
    by_cases date : k = .nextOccurrence
    · rw [if_pos date, if_pos date]
    · rw [if_neg date, if_neg date, Row.movedTo_cell d date]
  simp only [Store.settings, Table.find?, worked.policies]
  have rows := worked.grown.rows
  generalize s.subscriptions.rows = before, s'.subscriptions.rows = after at rows ⊢
  induction rows with
  | nil => rfl
  | @cons r r' rows rows' reached _ ih =>
    rw [List.find?_cons, List.find?_cons, reached.id_eq]
    split
    · rcases reached.eq_or with rfl | ⟨-, -, d, -, -, -, -, rfl, -⟩
      · rfl
      · rw [Option.map_some, Option.map_some, unset, Row.movedTo_cell d (by decide)]
    · exact ih

/-- **There is one day ahead of a charge** on which its reminder is in place, as long as the settings
are the same. -/
theorem InWindow.today_eq (window : s.InWindow user today id date)
    (window' : s'.InWindow user' today' id date) (same : s'.settings id = s.settings id)
    (ahead : today ≠ date) (ahead' : today' ≠ date) : today' = today := by
  obtain ⟨r, mem, rfl, owner, sub, policy, read, found, -, window⟩ := window
  obtain ⟨r', mem', same_id, owner', sub', policy', read', found', -, window'⟩ := window'
  have settings := settings_eq mem owner
  rw [← same, ← same_id, settings_eq mem' owner', Option.some.injEq, Prod.mk.injEq] at settings
  obtain ⟨same_row, same_policy⟩ := settings
  -- Moved to one date the two rows are the same, and so are the subscriptions in them.
  have moved : r'.movedTo date = r.movedTo date := by
    have unset (r : Row SubscriptionColumn) :
        (r.set .nextOccurrence .null).movedTo date = r.movedTo date := by
      refine congrArg (Row.mk r.id) (funext fun k => ?_)
      by_cases date : k = .nextOccurrence
      · rw [if_pos date, if_pos date]
      · rw [if_neg date, if_neg date]
        exact if_neg date
    rw [← unset r', same_row, unset r]
  have readings := Subscription.ofRow_movedTo read' date
  rw [moved, Subscription.ofRow_movedTo read date] at readings
  have same_sub : sub.movedTo date = sub'.movedTo date := Except.ok.inj (Except.ok.inj readings)
  have same_user : user' = user := by
    have cell := Row.movedTo_cell (r := r') date (k := .userId) (by decide)
    rw [moved, Row.movedTo_cell date (by decide), Cell.isInt_iff.mp owner,
      Cell.isInt_iff.mp owner'] at cell
    exact (Cell.integer.inj cell).symm
  subst same_user
  have same_found : s'.findPolicy user' = s.findPolicy user' := by
    rw [findPolicy, findPolicy, same_policy]
  cases found'.symm.trans (same_found.trans found)
  have lead : sub.leadDays policy = sub'.leadDays policy := congrArg (·.leadDays policy) same_sub
  have away {sub : Subscription} {today : Date} (window : sub.InWindow policy today date)
      (ahead : today ≠ date) : date.dayNumber - today.dayNumber = sub.leadDays policy := by
    rcases window.exact with ⟨same, -⟩ | ⟨-, exact⟩
    · exact absurd (Date.dayNumber_inj.mp (Int.eq_of_sub_eq_zero same).symm) ahead
    · exact exact
  have first := away window ahead
  have second := away window' ahead'
  exact Date.dayNumber_inj.mp (by omega)

end Store

/-! ### Ticks -/

/-- The sender was called for a charge, or the log has a new row about it. -/
def World.Attempted (w : World) (s : Store) (id : Int) (date : Date) : Prop :=
  (∃ job ∈ callsOf w.events, job.subscriptionId = id ∧ job.notifyDate = date) ∨
    ∃ cells ∈ s.logSince w.store, (cells .subscriptionId).IsInt id ∧
      (cells .notifyDate).IsText date.toText

namespace Engine

variable {e : Engine} {allowed : Turn → Prop} {today : Date} {s : Store} {r : Round} {w : World}

/-- Every call of a tick is in its window. -/
theorem TicksTo.inWindow_of_call (ticks : e.TicksTo allowed today s r w) {job : Job}
    (called : job ∈ callsOf w.events) :
    s.InWindow job.userId today job.subscriptionId job.notifyDate := by
  obtain ⟨order, -, stems, -⟩ := ticks.stems
  exact Script.inWindow_of_mem_jobs (stems.mem_jobs called)

/-- Every new row of the log is in its window. -/
theorem TicksTo.inWindow_of_row (ticks : e.TicksTo allowed today s r w) {cells : LogColumn → Cell}
    (new : cells ∈ s.logSince w.store) : ∃ user id date, cells .userId = .integer user ∧
      cells .subscriptionId = .integer id ∧ cells .notifyDate = .text date.toText ∧
        s.InWindow user today id date := by
  obtain ⟨order, -, stems, -⟩ := ticks.stems
  obtain ⟨user, job, planned, outcome, now, rfl⟩ := stems.exists_job new
  have owner : job.userId = user := by
    cases prepared : (Script.prepare e.defaultTemplate user today).run .open s with
    | mk result moved =>
      rw [prepared] at planned
      cases result with
      | error failure => exact absurd planned List.not_mem_nil
      | ok p => exact Script.userId_of_mem_jobs prepared planned
  refine ⟨user, job.subscriptionId, job.notifyDate, ?_, rfl, rfl,
    Script.inWindow_of_mem_jobs planned⟩
  rw [← owner]
  rfl

/-- Whatever is attempted is in its window. -/
theorem TicksTo.exists_inWindow (ticks : e.TicksTo allowed today s r w) {id : Int} {date : Date}
    (attempted : w.Attempted s id date) : ∃ user, s.InWindow user today id date := by
  rcases attempted with ⟨job, called, rfl, rfl⟩ | ⟨cells, new, about, on⟩
  · exact ⟨job.userId, ticks.inWindow_of_call called⟩
  · obtain ⟨user, id', date', -, about', on', window⟩ := ticks.inWindow_of_row new
    cases about'.symm.trans (Cell.isInt_iff.mp about)
    cases Date.toText_inj (Cell.text.inj (on'.symm.trans (Cell.isText_iff.mp on)))
    exact ⟨user, window⟩

/-- **Reminders keep their window.** Whatever the sender answers, whichever calls the store refuses
and whoever takes the turns, and however far a tick has got: every call of the sender and every row
that the log has got is about a charge in its window, and the settings of every subscription are what
they were. So there is one day ahead of a charge, such that every tick that attempts it, as long as
its settings stay the same, is on that day or on the day of the charge. -/
theorem reminders_keep_their_window :
    (∀ (e : Engine) (allowed : Turn → Prop) (today : Date) (s : Store) (r : Round) (w : World),
      e.TicksTo allowed today s r w →
        (∀ job ∈ callsOf w.events,
          s.InWindow job.userId today job.subscriptionId job.notifyDate) ∧
        s.logs.rows <+: w.store.logs.rows ∧
        (∀ cells ∈ s.logSince w.store, ∃ user id date, cells .userId = .integer user ∧
          cells .subscriptionId = .integer id ∧ cells .notifyDate = .text date.toText ∧
            s.InWindow user today id date) ∧
        ∀ id, w.store.settings id = s.settings id) ∧
    ∀ id date settings, ∃ early : Date, ∀ (e : Engine) (allowed : Turn → Prop) (today : Date)
      (s : Store) (r : Round) (w : World), e.TicksTo allowed today s r w →
        s.settings id = settings → w.Attempted s id date → today = date ∨ today = early := by
  constructor
  · intro e allowed today s r w ticks
    obtain ⟨order, -, stems, -⟩ := ticks.stems
    refine ⟨fun job => ticks.inWindow_of_call, ?_, fun cells => ticks.inWindow_of_row,
      stems.worked.settings⟩
    obtain ⟨rows, log, -⟩ := stems.worked.grown.log
    exact ⟨rows, log.symm⟩
  · intro id date settings
    -- The day ahead is that of any attempt ahead, if there is one.
    by_cases ahead : ∃ s user today, s.settings id = settings ∧ Store.InWindow s user today id date ∧
        today ≠ date
    · obtain ⟨s, user, early, same, window, ahead⟩ := ahead
      refine ⟨early, fun e allowed today s' r w ticks same' attempted => ?_⟩
      obtain ⟨user', window'⟩ := ticks.exists_inWindow attempted
      refine or_iff_not_imp_left.mpr fun ahead' => ?_
      exact window.today_eq window' (same'.trans same.symm) ahead ahead'
    · refine ⟨date, fun e allowed today s r w ticks same attempted => .inl ?_⟩
      obtain ⟨user, window⟩ := ticks.exists_inWindow attempted
      by_contra different
      exact ahead ⟨s, user, today, same, window, different⟩

/-- A reminder of the day itself. -/
theorem reminders_keep_their_window_sample : ∃ r w,
    Sample.engine.TicksTo (fun _ => True) Sample.today Sample.store r w ∧
      w.Attempted Sample.store 1 Sample.today ∧
      Sample.store.InWindow 1 Sample.today 1 Sample.today ∧
        w.store.settings 1 = Sample.store.settings 1 := by
  have listed : Sample.store.serve .open .listUsers = .ok ([1], Sample.store) := by rfl
  have sent : (Sample.engine.tick Sample.sender .open Sample.noon Sample.store Sample.today).sent.map
      (fun job => (job.userId, job.subscriptionId, job.notifyDate)) = [(1, 1, Sample.today)] := by
    decide +kernel
  obtain ⟨r, events, ran, -, -, calls⟩ := Sample.engine.runs_tick Sample.sender .open Sample.noon
    Sample.store Sample.store Sample.today [1] listed
  rw [← calls] at sent
  have ticks : Sample.engine.TicksTo (fun _ => True) Sample.today Sample.store r _ :=
    ⟨[1], [1], (listUsers_of_serve listed).1, .refl _,
      Relation.ReflTransGen.mono (fun _ _ stepped => ⟨_, trivial, stepped⟩) _ _ ran⟩
  obtain ⟨window, -, -, settings⟩ := reminders_keep_their_window.1 _ _ _ _ _ _ ticks
  obtain ⟨job, calls, about⟩ := List.map_eq_singleton_iff.mp sent
  have called : job ∈ callsOf events := calls ▸ List.mem_singleton_self job
  simp only [Prod.mk.injEq] at about
  obtain ⟨user, id, date⟩ := about
  refine ⟨r, _, ticks, .inl ⟨job, called, id, date⟩, ?_, settings 1⟩
  have mine := window job called
  rwa [user, id, date] at mine

end Engine

end Reminders
