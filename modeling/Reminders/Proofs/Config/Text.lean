import Reminders.Config.Toml
import Reminders.Proofs.Toml.Document

/-!
Reading the text of a configuration again.

A configuration is written as three sections. Its text is found to be the configuration again when the
scheduler can run with it. The numbers of TOML have 64 bits and a sign, so a configuration with a larger
one has no text.

* `Config.ofText_toText`
* `Config.toText_of_not_fits`
-/

namespace Reminders

open Toml (Setting Section Writes writes_quoted writes_signed)

namespace Config

/-- TOML can hold the numbers of the configuration. -/
structure Fits (c : Config) : Prop where
  tickIntervalSecs : c.scheduler.tickIntervalSecs.toNat ≤ Width.maxInt64
  userConcurrency : c.scheduler.userConcurrency.toNat ≤ Width.maxInt64
  jobConcurrency : c.scheduler.jobConcurrency.toNat ≤ Width.maxInt64
  sendTimeoutSecs : c.scheduler.sendTimeoutSecs.toNat ≤ Width.maxInt64

/-! ### What is written -/

/-- A text under a key. -/
def textSetting (key value : String) : Setting := ⟨key, (Toml.quoted value).toList, .str value⟩

/-- An integer under a key. -/
def intSetting (key : String) (n : Int) : Setting := ⟨key, Numeral.signed n, .int n⟩

/-- The sections of a configuration. -/
def sections (c : Config) : List Section :=
  [⟨"database", [textSetting "path" c.databasePath]⟩,
    ⟨"scheduler",
      [intSetting "tick_interval_secs" c.scheduler.tickIntervalSecs.toNat,
        intSetting "user_concurrency" c.scheduler.userConcurrency.toNat,
        intSetting "job_concurrency" c.scheduler.jobConcurrency.toNat,
        intSetting "utc_offset_minutes" c.scheduler.utcOffsetMinutes.toInt,
        intSetting "send_timeout_secs" c.scheduler.sendTimeoutSecs.toNat]⟩,
    ⟨"notify", [textSetting "default_template" c.defaultTemplate]⟩]

theorem writtenWord_of_le {n : UInt64} (le : n.toNat ≤ Width.maxInt64) :
    writtenWord n = .ok (Numeral.ofInt n.toNat) := by
  have natural : Numeral.signed n.toNat = Numeral.digits n.toNat := if_neg (by omega)
  rw [writtenWord, if_pos le, Numeral.ofNat, Numeral.ofInt, natural]

theorem writtenWord_of_lt {n : UInt64} (lt : Width.maxInt64 < n.toNat) :
    writtenWord n = .error .unwritable := if_neg (by omega)

set_option maxRecDepth 4000 in
theorem toText_of_fits {c : Config} (fits : c.Fits) :
    c.toText = .ok (String.ofList (Toml.documentChars c.sections)) := by
  simp only [toText, writtenWord_of_le fits.tickIntervalSecs, writtenWord_of_le fits.userConcurrency,
    writtenWord_of_le fits.jobConcurrency, writtenWord_of_le fits.sendTimeoutSecs]
  refine congrArg Except.ok (String.toList_injective ?_)
  simp only [String.toList_append, String.toList_ofList, List.append_assoc, Toml.documentChars,
    sections, Section.chars, Setting.chars, textSetting, intSetting, Numeral.ofInt,
    List.flatMap_cons, List.flatMap_nil, List.cons_append, List.nil_append, List.append_nil]
  rfl

/-- A number that is too large makes the whole configuration unwritable. -/
theorem toText_of_not_fits {c : Config} (large : ¬c.Fits) : c.toText = .error .unwritable := by
  have written (n : UInt64) : writtenWord n = .error .unwritable ∨ n.toNat ≤ Width.maxInt64 := by
    rcases Int.lt_or_le Width.maxInt64 n.toNat with lt | le
    · exact .inl (writtenWord_of_lt lt)
    · exact .inr le
  unfold toText
  obtain interval | interval := written c.scheduler.tickIntervalSecs
  · rw [interval]
    rfl
  obtain users | users := written c.scheduler.userConcurrency
  · rw [writtenWord_of_le interval, users]
    rfl
  obtain jobs | jobs := written c.scheduler.jobConcurrency
  · rw [writtenWord_of_le interval, writtenWord_of_le users, jobs]
    rfl
  obtain timeout | timeout := written c.scheduler.sendTimeoutSecs
  · rw [writtenWord_of_le interval, writtenWord_of_le users, writtenWord_of_le jobs, timeout]
    rfl
  · exact absurd ⟨interval, users, jobs, timeout⟩ large

/-! ### What is read -/

theorem isWritten_textSetting {key : String} (bare : Toml.IsBare key) (value : String) :
    (textSetting key value).IsWritten := ⟨bare, writes_quoted value⟩

theorem isWritten_intSetting {key : String} (bare : Toml.IsBare key) {n : Int}
    (fits : Width.IsInt64 n) : (intSetting key n).IsWritten := ⟨bare, writes_signed fits⟩

theorem Fits.isWritten {c : Config} (fits : c.Fits) : ∀ s ∈ c.sections, s.IsWritten := by
  have natural {n : Nat} (le : n ≤ Width.maxInt64) : Width.IsInt64 n :=
    ⟨by simp only [Width.minInt64]; omega, le⟩
  have minutes : Width.IsInt64 c.scheduler.utcOffsetMinutes.toInt := by
    have low := c.scheduler.utcOffsetMinutes.le_toInt
    have high := c.scheduler.utcOffsetMinutes.toInt_lt
    constructor <;> simp only [Width.minInt64, Width.maxInt64] <;> omega
  have database : Toml.IsBare "database" := by decide
  have scheduler : Toml.IsBare "scheduler" := by decide
  have notify : Toml.IsBare "notify" := by decide
  simp only [sections, List.forall_mem_cons]
  refine ⟨⟨database, ?_, by simp⟩, ⟨scheduler, ?_, ?_⟩,
    ⟨notify, ?_, by simp⟩, nofun⟩
  · simp only [List.forall_mem_cons]
    exact ⟨isWritten_textSetting (by decide) _, nofun⟩
  · simp only [List.forall_mem_cons]
    exact ⟨isWritten_intSetting (by decide) (natural fits.tickIntervalSecs),
      isWritten_intSetting (by decide) (natural fits.userConcurrency),
      isWritten_intSetting (by decide) (natural fits.jobConcurrency),
      isWritten_intSetting (by decide) minutes,
      isWritten_intSetting (by decide) (natural fits.sendTimeoutSecs), nofun⟩
  · simp [intSetting]
  · simp only [List.forall_mem_cons]
    exact ⟨isWritten_textSetting (by decide) _, nofun⟩

theorem textSection?_entry (key value fallback : String) (origin : TableOrigin) :
    textSection? key fallback (.table origin [(textSetting key value).entry]) = some value := by
  have found : Toml.find? [(textSetting key value).entry] key = some (.str value) := by
    simp [Toml.find?, textSetting, Setting.entry]
  simp only [textSection?, Toml.fields?, List.map_cons, List.map_nil, found, Toml.orDefault,
    Toml.text?, Option.bind_eq_bind, Option.bind_some]

theorem word64?_toNat (n : UInt64) : Toml.word64? (.int n.toNat) = some n := by
  simp [Toml.word64?]

theorem int32?_toInt (n : Int32) : Toml.int32? (.int n.toInt) = some n := by
  have fits : Width.IsInt32 n.toInt := by
    have low := n.le_toInt
    have high := n.toInt_lt
    constructor <;> simp only [Width.minInt32, Width.maxInt32] <;> omega
  rw [Toml.int32?, if_pos fits, Int32.ofInt_toInt]

/-- The table of the scheduler's section. -/
theorem ofToml?_entries (s : SchedulerConfig) (origin : TableOrigin) :
    SchedulerConfig.ofToml? (.table origin
      [("tick_interval_secs", .int s.tickIntervalSecs.toNat),
        ("user_concurrency", .int s.userConcurrency.toNat),
        ("job_concurrency", .int s.jobConcurrency.toNat),
        ("utc_offset_minutes", .int s.utcOffsetMinutes.toInt),
        ("send_timeout_secs", .int s.sendTimeoutSecs.toNat)]) = some s := by
  simp only [SchedulerConfig.ofToml?, Toml.fields?, List.map_cons, List.map_nil, Toml.find?,
    List.lookup_cons, String.reduceBEq, Toml.orDefault, word64?_toNat, int32?_toInt,
    Option.bind_eq_bind, Option.bind_some]
  rfl

theorem ofEntries?_sections (c : Config) : ofEntries? (c.sections.map Section.entry) = some c := by
  have database : Toml.find? (c.sections.map Section.entry) "database" =
      some (.table .header [(textSetting "path" c.databasePath).entry]) := rfl
  have notify : Toml.find? (c.sections.map Section.entry) "notify" =
      some (.table .header [(textSetting "default_template" c.defaultTemplate).entry]) := rfl
  have scheduler : (Toml.find? (c.sections.map Section.entry) "scheduler").bind
      SchedulerConfig.ofToml? = some c.scheduler := ofToml?_entries c.scheduler .header
  obtain ⟨table, found, read⟩ := Option.bind_eq_some_iff.mp scheduler
  simp only [ofEntries?, database, notify, found, Toml.orDefault, textSection?_entry, read,
    Option.bind_eq_bind, Option.bind_some]
  rfl

/-- **The text of a configuration is read as that configuration** when the scheduler can run with
it. -/
theorem ofText_toText {c : Config} (fits : c.Fits) (valid : c.validate = .ok ()) {text : String}
    (written : c.toText = .ok text) : ofText text = .ok c := by
  have distinct : (c.sections.map Section.name).Nodup := by
    change ["database", "scheduler", "notify"].Nodup
    decide
  cases (toText_of_fits fits).symm.trans written
  rw [ofText, Toml.parse?_document fits.isWritten distinct, Option.bind_some, ofEntries?_sections]
  simp only [valid]
  rfl

end Config

end Reminders
