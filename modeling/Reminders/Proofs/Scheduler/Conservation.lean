import Reminders.Proofs.Scheduler.Sequential

/-!
No reminder is lost.

A run pairs every due reminder with every type of channel that the user has, and each pair ends in
one of four counts: sent before, not renderable, sent, or failed. The log grows by one row for every
pair that was sent or failed, except where it refused the row. A tick adds up the runs that
succeeded.

* `Store.length_leadingChannels`: how many channels count.
* `UserTask.conserves`: one run, whatever the workers and the sender do.
* `Engine.reports_conserve_reminders`: runs and ticks.
-/

namespace Reminders

/-! ### The types of a user's channels -/

theorem ChannelType.nodup_all : ChannelType.all.Nodup := by decide

theorem ChannelType.tag_eq_of_ofTag? {tag : String} {t : ChannelType} (h : ofTag? tag = some t) :
    tag = t.tag := by
  have found := List.find?_some h
  exact (of_decide_eq_true found).symm

namespace Store

/-- The kinds of channels that a user can be reminded over: those whose tag stands in an enabled row
of the user. -/
def channelTypes (s : Store) (user : Int) : List ChannelType :=
  ChannelType.all.filter fun type => decide (∃ r ∈ s.channels.rows,
    (r.cell .enabled).IsInt 1 ∧ (r.cell .userId).IsInt user ∧ (r.cell .channelType).IsText type.tag)

theorem mem_channelTypes_iff {s : Store} {user : Int} {type : ChannelType} :
    type ∈ s.channelTypes user ↔ ∃ r ∈ s.channels.rows, (r.cell .enabled).IsInt 1 ∧
      (r.cell .userId).IsInt user ∧ (r.cell .channelType).IsText type.tag := by
  simp only [channelTypes, List.mem_filter, ChannelType.mem_all, true_and, decide_eq_true_eq]

/-- Every row of an enabled channel was read when the channels were found. -/
theorem exists_ofRow_of_findChannels {s : Store} {user : Int} {channels : List Channel}
    (found : s.findChannels user = .ok channels) {r : Row ChannelColumn} (mem : r ∈ s.channels.rows)
    (enabled : (r.cell .enabled).IsInt 1) (owner : (r.cell .userId).IsInt user) :
    ∃ c, Channel.ofRow r = .ok c := by
  obtain ⟨readings, read, -⟩ := except_bind_eq_ok_iff.mp found
  refine exists_of_mapM_eq_ok (doing_eq_ok_iff.mp read) (List.mem_filter.mpr ⟨?_, ?_⟩)
  · exact List.mem_filter.mpr ⟨mem, decide_eq_true enabled⟩
  · exact decide_eq_true owner

/-- The types of the channels that are found are the types of the user's channels. -/
theorem mem_types_iff_mem_channelTypes {s : Store} {user : Int} {channels : List Channel}
    (found : s.findChannels user = .ok channels) {type : ChannelType} :
    type ∈ channels.map (·.type) ↔ type ∈ s.channelTypes user := by
  rw [List.mem_map, mem_channelTypes_iff]
  constructor
  · rintro ⟨c, mem, rfl⟩
    obtain ⟨r, row, enabled, owner, read⟩ := (mem_findChannels_iff found).mp mem
    obtain ⟨-, -, tag, stored, known⟩ := Channel.ofRow_eq_ok_some read
    refine ⟨r, row, enabled, owner, ?_⟩
    rw [Cell.isText_iff, stored, ChannelType.tag_eq_of_ofTag? known]
  · rintro ⟨r, row, enabled, owner, stored⟩
    obtain ⟨o, read⟩ := exists_ofRow_of_findChannels found row enabled owner
    obtain ⟨c, rfl, type_eq⟩ :=
      Channel.exists_of_ofRow_eq_ok read (Cell.isText_iff.mp stored) (ChannelType.ofTag?_tag type)
    exact ⟨c, (mem_findChannels_iff found).mpr ⟨r, row, enabled, owner, read⟩, type_eq⟩

/-- As many channels count as the user's channels have types. -/
theorem length_leadingChannels {s : Store} {user : Int} {channels : List Channel}
    (found : s.findChannels user = .ok channels) :
    (leadingChannels channels).length = (s.channelTypes user).length := by
  rw [← List.length_map (·.type)]
  refine ((List.perm_ext_iff_of_nodup (nodup_leadingChannels channels)
    (ChannelType.nodup_all.filter _)).mpr fun type => ?_).length_eq
  rw [mem_types_leadingChannels_iff, mem_types_iff_mem_channelTypes found]
  rfl

end Store

/-! ### One run -/

/-- Every candidate of a preparation belongs to one due reminder and one type. -/
theorem Script.length_candidates {defaultTemplate : String} {user : Int} {today : Date}
    {s s₁ : Store} {p : Preparation}
    (prepared : (prepare defaultTemplate user today).run .open s = (.ok p, s₁)) :
    p.candidates.length = p.due * (s.channelTypes user).length := by
  obtain ⟨rfl, channels, due, email, found, due_eq, candidates, -⟩ := run_prepare_eq_ok prepared
  have same := run_advanceUser user today .open s
  have types : (s.channelTypes user).length = (leadingChannels channels).length := by
    rw [Store.length_leadingChannels found, Store.channelTypes, Store.channelTypes, same.channels]
  rw [candidates, due_eq, types, List.length_flatMap]
  simp

namespace UserTask

/-- **One run conserves its reminders**, whatever the workers and the sender do. -/
theorem conserves {e : Engine} {user : Int} {today : Date} {world last : World}
    {report : UserReport}
    (ran : Runs (UserTask.step e) (.start e user today, world) (.finished (.ok report), last)) :
    report.alreadySent + report.renderFailures + report.delivery.sent + report.delivery.failed =
        report.due * (world.store.channelTypes user).length ∧
      ∃ rows, last.store.logs.rows = world.store.logs.rows ++ rows ∧
        rows.length + report.delivery.logErrors = report.delivery.sent + report.delivery.failed ∧
        ∀ r ∈ rows, (r.cell .userId).IsInt user := by
  obtain ⟨p, store, c, prepared, crew, ended, rfl⟩ := prepared_of_runs ran
  obtain ⟨events, rows, account⟩ := Crew.exists_progress crew
  constructor
  · have candidates := Script.length_candidates prepared
    have counts := p.counts c.stats
    have jobs : c.stats.sent + c.stats.failed = p.jobs.length := account.sent_add_failed ended
    change (p.report c.stats).alreadySent + (p.report c.stats).renderFailures + c.stats.sent +
      c.stats.failed = p.due * _
    omega
  · refine ⟨rows, ?_, account.logged, ?_⟩
    · obtain ⟨rfl, -⟩ := Script.run_prepare_eq_ok prepared
      rw [account.rows_eq, (Script.run_advanceUser user today .open world.store).logs]
    · intro r mem
      obtain ⟨j, mem, owner⟩ := account.owners r mem
      rw [Cell.isInt_iff, owner, Script.userId_of_mem_jobs prepared mem]

end UserTask

namespace Engine

/-- **Runs and ticks conserve reminders.** In a run that succeeds, every due reminder is counted once
for every type of the user's channels, and the log grows by the rows that were counted as sent or
failed and not refused, all of them the user's. In a tick, each count is the sum over the runs that
succeeded, and every user who was listed has a run that succeeded or is counted as failed. -/
theorem reports_conserve_reminders (e : Engine) (today : Date) :
    (∀ user world last report,
      Runs (UserTask.step e) (.start e user today, world) (.finished (.ok report), last) →
        report.alreadySent + report.renderFailures + report.delivery.sent + report.delivery.failed =
            report.due * (world.store.channelTypes user).length ∧
          ∃ rows, last.store.logs.rows = world.store.logs.rows ++ rows ∧
            rows.length + report.delivery.logErrors =
              report.delivery.sent + report.delivery.failed ∧
            ∀ r ∈ rows, (r.cell .userId).IsInt user) ∧
      ∀ users world r last,
        Runs (Round.step e today) (.start e users, world) (r, last) → r.IsOver →
          (r.finished.map Prod.fst).Perm users ∧
          r.report.totals = (Round.succeeded r.finished).sum ∧
          r.report.users = users.length ∧
          r.report.users = (Round.succeeded r.finished).length + r.report.usersFailed := by
  refine ⟨fun _ _ _ _ => UserTask.conserves, ?_⟩
  intro users world r last ran ended
  obtain ⟨users_eq, conserved, totals, counted⟩ := Round.progress_of_runs ran
  rw [Round.held_eq_nil ended.2, ended.1, List.append_nil, List.append_nil] at conserved
  have length := conserved.length_eq
  rw [List.length_map] at length
  rw [Round.report_eq]
  refine ⟨conserved, totals, by rw [users_eq], ?_⟩
  rw [counted, length, users_eq]

/-- A run and a tick with one reminder to send. -/
theorem reports_conserve_reminders_sample :
    (∃ last report, Runs (UserTask.step Sample.engine)
        (.start Sample.engine 1 Sample.today, ⟨Sample.store, []⟩) (.finished (.ok report), last) ∧
      report = ⟨0, 1, 0, 0, ⟨1, 0, 0⟩⟩ ∧
      report.alreadySent + report.renderFailures + report.delivery.sent + report.delivery.failed =
        report.due * (Sample.store.channelTypes 1).length) ∧
    ∃ r last, Runs (Round.step Sample.engine Sample.today)
        (.start Sample.engine [1], ⟨Sample.store, []⟩) (r, last) ∧ r.IsOver ∧
      r.report = ⟨1, 0, ⟨0, 1, 0, 0, ⟨1, 0, 0⟩⟩⟩ ∧
      r.report.totals = (Round.succeeded r.finished).sum := by
  have result : (Sample.engine.runUser Sample.sender .open Sample.noon Sample.store 1
      Sample.today).result = .ok ⟨0, 1, 0, 0, ⟨1, 0, 0⟩⟩ := by decide +kernel
  have total : (Sample.engine.tick Sample.sender .open Sample.noon Sample.store
      Sample.today).report = ⟨1, 0, ⟨0, 1, 0, 0, ⟨1, 0, 0⟩⟩⟩ := by decide +kernel
  obtain ⟨events, ran, -⟩ := Sample.engine.runs_runUser Sample.sender .open Sample.noon
    ⟨Sample.store, []⟩ 1 Sample.today
  obtain ⟨r, events', ticked, ended, report, -⟩ := Sample.engine.runs_tick Sample.sender .open
    Sample.noon Sample.store Sample.store Sample.today [1] rfl
  replace ran := Runs.of_repeats ran
  rw [result] at ran
  rw [total] at report
  obtain ⟨runs, ticks⟩ := reports_conserve_reminders Sample.engine Sample.today
  exact ⟨⟨_, _, ran, rfl, (runs _ _ _ _ ran).1⟩, r, _, .of_repeats ticked, ended, report,
    (ticks _ _ _ _ (.of_repeats ticked) ended).2.1⟩

end Engine

end Reminders
