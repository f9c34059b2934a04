import Mathlib.Data.List.Forall2
import Mathlib.Data.List.Nodup
import Reminders.Proofs.Script.Run
import Reminders.Proofs.Store.Query
import Reminders.Scheduler.UserRun

/-!
What a run finds before it sends.

A run pairs every due reminder with the first channel of each type. Each pair becomes one candidate,
judged by what the log says and by what its template gives.

* `mem_leadingChannels_iff`, `nodup_leadingChannels`, `mem_types_leadingChannels_iff`: which channels
  count.
* `Preparation.counts`: every candidate is counted once.
* `Script.run_prepare_eq_ok`: what a preparation consists of.
-/

namespace Reminders

/-! ### The first channel of each type -/

theorem mem_leadingFrom_iff {seen : List ChannelType} {channels : List Channel}
    (ascending : channels.Pairwise (·.id < ·.id)) {c : Channel} :
    c ∈ leadingFrom seen channels ↔
      c ∈ channels ∧ c.type ∉ seen ∧ ∀ o ∈ channels, o.type = c.type → c.id ≤ o.id := by
  induction channels generalizing seen with
  | nil => simp [leadingFrom]
  | cons a rest ih =>
    obtain ⟨first, later⟩ := List.pairwise_cons.mp ascending
    unfold leadingFrom
    split
    · rename_i seenBefore
      rw [ih later]
      constructor
      · rintro ⟨mem, unseen, least⟩
        refine ⟨List.mem_cons_of_mem _ mem, unseen, ?_⟩
        intro o ho same
        rcases List.mem_cons.mp ho with rfl | ho
        · exact absurd (same ▸ seenBefore) unseen
        · exact least o ho same
      · rintro ⟨mem, unseen, least⟩
        rcases List.mem_cons.mp mem with rfl | mem
        · exact absurd seenBefore unseen
        · exact ⟨mem, unseen, fun o ho => least o (List.mem_cons_of_mem _ ho)⟩
    · rename_i unseenBefore
      rw [List.mem_cons, ih later]
      constructor
      · rintro (rfl | ⟨mem, unseen, least⟩)
        · refine ⟨List.mem_cons_self, unseenBefore, ?_⟩
          intro o ho _
          rcases List.mem_cons.mp ho with rfl | ho
          · exact Int.le_refl _
          · exact Int.le_of_lt (first o ho)
        · obtain ⟨other, unseen⟩ := not_or.mp (fun h => unseen (List.mem_cons.mpr h))
          refine ⟨List.mem_cons_of_mem _ mem, unseen, ?_⟩
          intro o ho same
          rcases List.mem_cons.mp ho with rfl | ho
          · exact absurd same.symm other
          · exact least o ho same
      · rintro ⟨mem, unseen, least⟩
        rcases List.mem_cons.mp mem with rfl | mem
        · exact .inl rfl
        · refine .inr ⟨mem, ?_, fun o ho => least o (List.mem_cons_of_mem _ ho)⟩
          intro h
          rcases List.mem_cons.mp h with same | h
          · have := least a List.mem_cons_self same.symm
            have := first c mem
            omega
          · exact unseen h

/-- A channel counts when no channel of its type has a smaller id. -/
theorem mem_leadingChannels_iff {channels : List Channel}
    (ascending : channels.Pairwise (·.id < ·.id)) {c : Channel} :
    c ∈ leadingChannels channels ↔
      c ∈ channels ∧ ∀ o ∈ channels, o.type = c.type → c.id ≤ o.id := by
  rw [leadingChannels, mem_leadingFrom_iff ascending]
  simp

theorem nodup_leadingFrom (seen : List ChannelType) (channels : List Channel) :
    ((leadingFrom seen channels).map (·.type)).Nodup ∧
      ∀ t, t ∈ (leadingFrom seen channels).map (·.type) ↔
        t ∉ seen ∧ t ∈ channels.map (·.type) := by
  induction channels generalizing seen with
  | nil => simp [leadingFrom]
  | cons a rest ih =>
    unfold leadingFrom
    split
    · rename_i seenBefore
      refine ⟨(ih seen).1, ?_⟩
      intro t
      rw [(ih seen).2, List.map_cons, List.mem_cons]
      constructor
      · exact fun ⟨unseen, mem⟩ => ⟨unseen, .inr mem⟩
      · rintro ⟨unseen, rfl | mem⟩
        · exact absurd seenBefore unseen
        · exact ⟨unseen, mem⟩
    · rename_i unseenBefore
      obtain ⟨nodup, mem_iff⟩ := ih (a.type :: seen)
      refine ⟨List.nodup_cons.mpr ⟨?_, nodup⟩, ?_⟩
      · intro h
        exact ((mem_iff _).mp h).1 List.mem_cons_self
      · intro t
        rw [List.map_cons, List.mem_cons, mem_iff, List.map_cons, List.mem_cons, List.mem_cons]
        by_cases same : t = a.type
        · simp [same, unseenBefore]
        · simp [same]

/-- No two of the channels that count have the same type. -/
theorem nodup_leadingChannels (channels : List Channel) :
    ((leadingChannels channels).map (·.type)).Nodup :=
  (nodup_leadingFrom [] channels).1

/-- Every type has a channel that counts. -/
theorem mem_types_leadingChannels_iff {channels : List Channel} {t : ChannelType} :
    t ∈ (leadingChannels channels).map (·.type) ↔ t ∈ channels.map (·.type) := by
  rw [leadingChannels, (nodup_leadingFrom [] channels).2]
  simp

theorem Subscription.dueReminder?_eq_some_iff {sub : Subscription} {policy : Option Policy}
    {today : Date} {r : DueReminder} :
    sub.dueReminder? policy today = some r ↔
      ∃ date, sub.nextOccurrence = some date ∧
        (EffectivePolicy.resolve sub policy).IsDue (date.daysSince today) ∧
        r = ⟨sub, date, date.daysSince today⟩ := by
  unfold dueReminder?
  cases sub.nextOccurrence with
  | none => exact ⟨fun h => (nomatch h), fun ⟨_, h, _⟩ => (nomatch h)⟩
  | some date =>
    simp only [Option.some.injEq, exists_eq_left']
    split
    · rename_i due
      exact ⟨fun h => ⟨due, (Option.some.inj h).symm⟩, fun h => congrArg some h.2.symm⟩
    · rename_i notDue
      exact ⟨fun h => (nomatch h), fun h => absurd h.1 notDue⟩

/-- Due reminders stand in the order of their subscriptions. -/
theorem Subscription.dueReminders_ascending {subs : List Subscription} (policy : Option Policy)
    (today : Date) (ascending : subs.Pairwise (·.id < ·.id)) :
    (subs.filterMap (·.dueReminder? policy today)).Pairwise
      (·.subscription.id < ·.subscription.id) := by
  rw [List.pairwise_filterMap]
  refine ascending.imp fun {a b} less r due r' due' => ?_
  obtain ⟨_, -, -, rfl⟩ := dueReminder?_eq_some_iff.mp due
  obtain ⟨_, -, -, rfl⟩ := dueReminder?_eq_some_iff.mp due'
  exact less

/-- No two pairs are about one subscription over one type of channel. -/
theorem nodup_pairs {due : List DueReminder} (channels : List Channel)
    (ascending : due.Pairwise (·.subscription.id < ·.subscription.id)) :
    ((due.flatMap fun r => (leadingChannels channels).map fun c => (r, c)).map
      fun pair => (pair.1.subscription.id, pair.2.type)).Nodup := by
  rw [List.map_flatMap, List.Nodup, List.pairwise_flatMap]
  constructor
  · intro r _
    rw [List.map_map, List.pairwise_map]
    exact (List.pairwise_map.mp (nodup_leadingChannels channels)).imp fun different same =>
      different (Prod.mk.inj same).2
  · refine ascending.imp fun {a b} less x mem y mem' same => ?_
    simp only [List.map_map, List.mem_map, Function.comp_apply] at mem mem'
    obtain ⟨c, -, rfl⟩ := mem
    obtain ⟨c', -, rfl⟩ := mem'
    exact Int.ne_of_lt less (Prod.mk.inj same).1

/-! ### Candidates -/

/-- The job of a due reminder and a channel. -/
def DueReminder.job (r : DueReminder) (user : Int) (channel : Channel) (message email : String) :
    Job where
  subscriptionId := r.subscription.id
  userId := user
  channel := channel
  notifyDate := r.billingDate
  message := message
  hint := email

/-- The key of a due reminder over a channel. -/
def DueReminder.key (r : DueReminder) (channel : Channel) : ReminderKey :=
  ⟨r.subscription.id, channel.type, r.billingDate⟩

/-- What the template of a channel, or else the default one, makes of a due reminder. -/
def DueReminder.message (r : DueReminder) (defaultTemplate : String) (channel : Channel)
    (email : String) : Except TemplateProblem String :=
  Template.render (channel.template.getD defaultTemplate)
    (r.subscription.reminderField r.billingDate r.daysUntil email)

/-- What becomes of a due reminder and a channel on a store. -/
def Store.judge (s : Store) (defaultTemplate : String) (user : Int) (email : String)
    (r : DueReminder) (channel : Channel) : Candidate :=
  if s.WasSent (r.key channel) then .alreadySent
  else
    match r.message defaultTemplate channel email with
    | .error _ => .unrenderable
    | .ok message => .ready (r.job user channel message email)

theorem Store.judge_eq_ready_iff {s : Store} {defaultTemplate email : String} {user : Int}
    {r : DueReminder} {channel : Channel} {job : Job} :
    s.judge defaultTemplate user email r channel = .ready job ↔
      ¬s.WasSent (r.key channel) ∧ ∃ message,
        r.message defaultTemplate channel email = .ok message ∧
          job = r.job user channel message email := by
  unfold Store.judge
  by_cases sent : s.WasSent (r.key channel)
  · rw [if_pos sent]
    exact ⟨nofun, fun h => absurd sent h.1⟩
  · rw [if_neg sent]
    cases r.message defaultTemplate channel email with
    | error _ => exact ⟨nofun, fun ⟨_, _, h, _⟩ => nomatch h⟩
    | ok message =>
      constructor
      · intro h; exact ⟨sent, message, rfl, (Candidate.ready.inj h).symm⟩
      · rintro ⟨_, _, same, h⟩; cases same; rw [h]

namespace Script

theorem run_candidate (defaultTemplate : String) (user : Int) (email : String) (r : DueReminder)
    (channel : Channel) (s : Store) :
    (candidate defaultTemplate user email r channel).run .open s =
      (.ok (s.judge defaultTemplate user email r channel), s) := by
  unfold Store.judge
  by_cases sent : s.WasSent (r.key channel)
  · rw [if_pos sent]
    refine run_call_bind_eq_ok_iff.mpr ⟨true, s, ?_, rfl⟩
    simp only [Store.answer, decide_eq_true (show s.WasSent ⟨_, _, _⟩ from sent)]
  · rw [if_neg sent]
    refine run_call_bind_eq_ok_iff.mpr ⟨false, s, ?_, ?_⟩
    · simp only [Store.answer, decide_eq_false (show ¬s.WasSent ⟨_, _, _⟩ from sent)]
    · simp only [DueReminder.message, Bool.false_eq_true, if_false]
      cases Template.render (channel.template.getD defaultTemplate)
        (r.subscription.reminderField r.billingDate r.daysUntil email) <;> rfl

theorem run_each {f : α → Script β} {g : α → β} {s : Store} {l : List α}
    (one : ∀ a ∈ l, (f a).run .open s = (.ok (g a), s)) :
    (each f l).run .open s = (.ok (l.map g), s) := by
  induction l with
  | nil => rfl
  | cons a rest ih =>
    unfold each
    rw [run_bind_eq_ok_iff]
    refine ⟨g a, s, one a List.mem_cons_self, ?_⟩
    rw [run_bind_eq_ok_iff]
    exact ⟨rest.map g, s, ih fun b hb => one b (List.mem_cons_of_mem _ hb), rfl⟩

end Script

/-! ### Preparations -/

/-- Every candidate is counted once. -/
theorem Preparation.counts (p : Preparation) (delivery : DeliveryStats) :
    (p.report delivery).alreadySent + (p.report delivery).renderFailures + p.jobs.length =
      p.candidates.length := by
  obtain ⟨advanced, due, candidates⟩ := p
  simp only [report, jobs]
  induction candidates with
  | nil => rfl
  | cons c rest ih =>
    cases c <;> simp only [List.countP_cons, List.filterMap_cons, List.length_cons] <;> simp <;>
      omega

theorem Preparation.mem_jobs_iff {p : Preparation} {job : Job} :
    job ∈ p.jobs ↔ .ready job ∈ p.candidates := by
  rw [jobs, List.mem_filterMap]
  constructor
  · rintro ⟨candidate, mem, ready⟩
    cases candidate with
    | ready other => cases ready; exact mem
    | alreadySent | unrenderable => cases ready
  · exact fun mem => ⟨.ready job, mem, rfl⟩

/-- Jobs that are about what their pairs are about stand in the order of the pairs. -/
theorem Preparation.map_jobs_sublist {p : Preparation} {pairs : List α} {f : Job → β} {g : α → β}
    (about : List.Forall₂ (fun pair candidate => ∀ job, candidate = .ready job → f job = g pair)
      pairs p.candidates) : (p.jobs.map f).Sublist (pairs.map g) := by
  obtain ⟨advanced, due, candidates⟩ := p
  simp only [jobs] at about ⊢
  induction about with
  | nil => exact .slnil
  | @cons pair candidate pairs candidates first _ ih =>
    cases candidate with
    | ready job =>
      simp only [List.filterMap_cons, List.map_cons, first job rfl]
      exact ih.cons_cons _
    | alreadySent | unrenderable => exact ih.cons _

namespace Script

/-- **What a preparation consists of**: the store after the overdue subscriptions were moved forward,
the channels found there, and one candidate for every due reminder and every channel that counts. -/
theorem run_prepare_eq_ok {defaultTemplate : String} {user : Int} {today : Date} {s s₁ : Store}
    {p : Preparation} (prepared : (prepare defaultTemplate user today).run .open s = (.ok p, s₁)) :
    s₁ = ((advanceUser user today).run .open s).2 ∧
      ∃ channels due email, s₁.findChannels user = .ok channels ∧ p.due = due.length ∧
        p.candidates = due.flatMap (fun r =>
          (leadingChannels channels).map (s₁.judge defaultTemplate user email r)) ∧
        (channels ≠ [] → ∃ subs policy address,
          s₁.findNotifiable user = .ok subs ∧ s₁.findPolicy user = .ok policy ∧
            s₁.userEmail? user = .ok address ∧ email = address.getD "" ∧
            due = subs.filterMap (·.dueReminder? policy today)) := by
  rw [prepare, run_bind_eq_ok_iff] at prepared
  obtain ⟨advanced, t, ran, prepared⟩ := prepared
  replace prepared := run_call_bind_eq_ok_iff.mp prepared
  obtain ⟨channels, t, answered, prepared⟩ := prepared
  obtain ⟨foundChannels, rfl⟩ := map_store_eq_ok_iff.mp answered
  split at prepared
  · rename_i none
    cases prepared
    refine ⟨by rw [ran], channels, [], "", foundChannels, rfl, rfl, fun some => absurd ?_ some⟩
    exact List.isEmpty_iff.mp none
  replace prepared := run_call_bind_eq_ok_iff.mp prepared
  obtain ⟨subs, t, answered, prepared⟩ := prepared
  obtain ⟨foundSubs, rfl⟩ := map_store_eq_ok_iff.mp answered
  replace prepared := run_call_bind_eq_ok_iff.mp prepared
  obtain ⟨policy, t, answered, prepared⟩ := prepared
  obtain ⟨foundPolicy, rfl⟩ := map_store_eq_ok_iff.mp answered
  replace prepared := run_call_bind_eq_ok_iff.mp prepared
  obtain ⟨address, t, answered, prepared⟩ := prepared
  obtain ⟨foundAddress, rfl⟩ := map_store_eq_ok_iff.mp answered
  rw [run_bind_eq_ok_iff] at prepared
  obtain ⟨candidates, t, judged, prepared⟩ := prepared
  rw [run_each fun pair _ => run_candidate _ _ _ pair.1 pair.2 _] at judged
  cases judged
  cases prepared
  refine ⟨by rw [ran], channels, _, _, foundChannels, rfl, ?_, fun _ =>
    ⟨subs, policy, address, foundSubs, foundPolicy, foundAddress, rfl, rfl⟩⟩
  simp only [List.map_flatMap, List.map_map]
  rfl

/-- The jobs of a preparation are the user's. -/
theorem userId_of_mem_jobs {defaultTemplate : String} {user : Int} {today : Date} {s s₁ : Store}
    {p : Preparation} (prepared : (prepare defaultTemplate user today).run .open s = (.ok p, s₁))
    {job : Job} (mem : job ∈ p.jobs) : job.userId = user := by
  obtain ⟨-, channels, due, email, -, -, candidates, -⟩ := run_prepare_eq_ok prepared
  rw [Preparation.mem_jobs_iff, candidates] at mem
  obtain ⟨r, -, mem⟩ := List.mem_flatMap.mp mem
  obtain ⟨c, -, judged⟩ := List.mem_map.mp mem
  obtain ⟨-, message, -, rfl⟩ := Store.judge_eq_ready_iff.mp judged
  rfl

end Script

end Reminders
