import Reminders.Failure
import Reminders.Proofs.Billing.Accepted

/-!
What drafts are accepted.

A draft is made of words and numbers as someone entered them. `BillingDraft.AsksFor` says what
billing a draft asks for, by the words that are left when blanks are trimmed and by the numbers that
belong to the rule that is named; it asks for one at most. `BillingDraft.Acceptable` says when there
is one.

* `BillingDraft.normalize_eq_ok_iff`: a draft is accepted as the billing that it asks for.
* `BillingDraft.exists_asksFor_iff`: what it takes to be accepted.
* `BillingDraft.Agrees.asksFor_iff`: what is left over from other rules has no say.
* `Billing.asksFor_toDraft`: accepted billing asks for itself when it is entered again.
* `BillingDraft.acceptance_exact`
-/

namespace Reminders

/-! ### Words -/

namespace BillingType

/-- The words for a billing type. There is an older word for a single charge. -/
def words : BillingType → List String
  | recurring => ["recurring"]
  | oneTime => ["one_time", "lifetime"]

theorem ofTag?_eq_some_iff {word : String} {type : BillingType} :
    ofTag? word = some type ↔ word ∈ type.words := by
  unfold ofTag?
  split <;> cases type <;> simp_all [words]

theorem tag_mem_words (type : BillingType) : type.tag ∈ type.words := by
  cases type <;> simp [tag, words]

@[simp] theorem trim_tag (type : BillingType) : Text.trim type.tag = type.tag := by
  cases type <;> rfl

end BillingType

namespace RecurrenceType

/-- The words for a kind of recurrence. Without a word it is an interval. -/
def words : RecurrenceType → List String
  | interval => ["", "interval"]
  | monthlyDate => ["monthly_date"]
  | yearlyDate => ["yearly_date"]

theorem ofTag?_eq_some_iff {word : String} {kind : RecurrenceType} :
    ofTag? word = some kind ↔ word = kind.tag := by
  unfold ofTag?
  split <;> cases kind <;> simp_all [tag]

theorem tag_mem_words (kind : RecurrenceType) : kind.tag ∈ kind.words := by
  cases kind <;> simp [tag, words]

/-- No word but the empty one stands for anything besides its own kind. -/
theorem mem_words_iff {word : String} {kind : RecurrenceType} (entered : word ≠ "") :
    word ∈ kind.words ↔ word = kind.tag := by
  cases kind <;> simp [words, tag, entered]

@[simp] theorem trim_tag (kind : RecurrenceType) : Text.trim kind.tag = kind.tag := by
  cases kind <;> rfl

end RecurrenceType

namespace IntervalUnit

theorem ofTag?_eq_some_iff {word : String} {unit : IntervalUnit} :
    ofTag? word = some unit ↔ word = unit.tag := by
  unfold ofTag?
  split <;> cases unit <;> simp_all [tag]

@[simp] theorem trim_tag (unit : IntervalUnit) : Text.trim unit.tag = unit.tag := by
  cases unit <;> rfl

end IntervalUnit

/-! ### What a draft asks for -/

namespace BillingDraft

/-- The draft names the billing type. -/
def NamesType (d : BillingDraft) (type : BillingType) : Prop :=
  Text.trim d.billingType ∈ type.words

/-- The draft names the kind of recurrence. -/
def NamesRecurrence (d : BillingDraft) (kind : RecurrenceType) : Prop :=
  Text.trim (d.recurrenceType.getD "") ∈ kind.words

/-- The draft names the unit of an interval. -/
def NamesUnit (d : BillingDraft) (unit : IntervalUnit) : Prop :=
  d.intervalUnit.map Text.trim = some unit.tag

/-- The draft asks for a rule: it names the kind, and gives the numbers of that kind in range. -/
inductive AsksForRule (d : BillingDraft) : BillingRule → Prop
  | interval {count : UInt32} {unit : IntervalUnit} (named : d.NamesRecurrence .interval)
      (counted : d.intervalCount = some (count.toNat : Int)) (positive : 1 ≤ count.toNat)
      (unitNamed : d.NamesUnit unit) : d.AsksForRule (.interval count unit)
  | monthlyDate {day : UInt32} (named : d.NamesRecurrence .monthlyDate)
      (entered : d.monthlyDay = some (day.toNat : Int)) (range : 1 ≤ day.toNat ∧ day.toNat ≤ 31) :
      d.AsksForRule (.monthlyDate day)
  | yearlyDate {month day : UInt32} (named : d.NamesRecurrence .yearlyDate)
      (enteredMonth : d.yearlyMonth = some (month.toNat : Int))
      (rangeMonth : 1 ≤ month.toNat ∧ month.toNat ≤ 12)
      (enteredDay : d.yearlyDay = some (day.toNat : Int))
      (rangeDay : 1 ≤ day.toNat ∧ day.toNat ≤ 31) : d.AsksForRule (.yearlyDate month day)

/-- The draft asks for billing: it names the type, gives a time, and asks for a rule if it recurs. -/
inductive AsksFor (d : BillingDraft) : Billing → Prop
  | oneTime {t : Instant} (named : d.NamesType .oneTime) (dated : d.nextOccurrence = some t) :
      d.AsksFor ⟨t.date, none⟩
  | recurring {t : Instant} {rule : BillingRule} (named : d.NamesType .recurring)
      (dated : d.nextOccurrence = some t) (ruled : d.AsksForRule rule) :
      d.AsksFor ⟨t.date, some rule⟩

variable {d e : BillingDraft}

theorem recurrence_eq_ok_iff {kind : RecurrenceType} :
    d.recurrence = .ok kind ↔ d.NamesRecurrence kind := by
  unfold recurrence NamesRecurrence
  by_cases entered : Text.trim (d.recurrenceType.getD "") = ""
  · simp only [entered, if_true, Except.ok.injEq]
    cases kind <;> simp [RecurrenceType.words]
  · simp only [entered, if_false]
    rw [orElse_eq_ok_iff, RecurrenceType.ofTag?_eq_some_iff, RecurrenceType.mem_words_iff entered]

theorem unit_eq_some_iff {unit : IntervalUnit} :
    (d.intervalUnit.bind fun word => IntervalUnit.ofTag? (Text.trim word)) = some unit ↔
      d.NamesUnit unit := by
  unfold NamesUnit
  cases d.intervalUnit with
  | none => simp
  | some word => simp [IntervalUnit.ofTag?_eq_some_iff]

/-- The rule of a draft is the one that it asks for. -/
theorem rule_eq_ok_iff {rule : BillingRule} : d.rule = .ok rule ↔ d.AsksForRule rule := by
  constructor
  · intro read
    obtain ⟨kind, named, read⟩ := except_bind_eq_ok_iff.mp read
    rw [recurrence_eq_ok_iff] at named
    cases kind with
    | interval =>
      obtain ⟨count, counted, read⟩ := except_bind_eq_ok_iff.mp read
      obtain ⟨unit, unitNamed, same⟩ := except_bind_eq_ok_iff.mp read
      cases same
      obtain ⟨counted, positive, -⟩ :=
        (within_eq_some_iff (Nat.le_refl _)).mp (orElse_eq_ok_iff.mp counted)
      exact .interval named counted positive (unit_eq_some_iff.mp (orElse_eq_ok_iff.mp unitNamed))
    | monthlyDate =>
      obtain ⟨day, entered, same⟩ := except_bind_eq_ok_iff.mp read
      cases same
      obtain ⟨entered, range⟩ := (within_eq_some_iff (by decide)).mp (orElse_eq_ok_iff.mp entered)
      exact .monthlyDate named entered range
    | yearlyDate =>
      obtain ⟨month, enteredMonth, read⟩ := except_bind_eq_ok_iff.mp read
      obtain ⟨day, enteredDay, same⟩ := except_bind_eq_ok_iff.mp read
      cases same
      obtain ⟨enteredMonth, rangeMonth⟩ :=
        (within_eq_some_iff (by decide)).mp (orElse_eq_ok_iff.mp enteredMonth)
      obtain ⟨enteredDay, rangeDay⟩ :=
        (within_eq_some_iff (by decide)).mp (orElse_eq_ok_iff.mp enteredDay)
      exact .yearlyDate named enteredMonth rangeMonth enteredDay rangeDay
  · intro asks
    cases asks with
    | @interval count unit named counted positive unitNamed =>
      have room : count.toNat ≤ Width.maxWord32 := Nat.le_of_lt_succ count.toNat_lt
      refine except_bind_eq_ok_iff.mpr ⟨.interval, recurrence_eq_ok_iff.mpr named, ?_⟩
      refine except_bind_eq_ok_iff.mpr ⟨count, orElse_eq_ok_iff.mpr ?_, ?_⟩
      · exact (within_eq_some_iff (Nat.le_refl _)).mpr ⟨counted, positive, room⟩
      · refine except_bind_eq_ok_iff.mpr ⟨unit, orElse_eq_ok_iff.mpr ?_, rfl⟩
        exact unit_eq_some_iff.mpr unitNamed
    | @monthlyDate day named entered range =>
      refine except_bind_eq_ok_iff.mpr ⟨.monthlyDate, recurrence_eq_ok_iff.mpr named, ?_⟩
      refine except_bind_eq_ok_iff.mpr ⟨day, orElse_eq_ok_iff.mpr ?_, rfl⟩
      exact (within_eq_some_iff (by decide)).mpr ⟨entered, range⟩
    | @yearlyDate month day named enteredMonth rangeMonth enteredDay rangeDay =>
      refine except_bind_eq_ok_iff.mpr ⟨.yearlyDate, recurrence_eq_ok_iff.mpr named, ?_⟩
      refine except_bind_eq_ok_iff.mpr ⟨month, orElse_eq_ok_iff.mpr ?_, ?_⟩
      · exact (within_eq_some_iff (by decide)).mpr ⟨enteredMonth, rangeMonth⟩
      · refine except_bind_eq_ok_iff.mpr ⟨day, orElse_eq_ok_iff.mpr ?_, rfl⟩
        exact (within_eq_some_iff (by decide)).mpr ⟨enteredDay, rangeDay⟩

/-- **A draft is accepted as the billing that it asks for.** -/
theorem normalize_eq_ok_iff {b : Billing} : d.normalize = .ok b ↔ d.AsksFor b := by
  constructor
  · intro accepted
    obtain ⟨type, named, accepted⟩ := except_bind_eq_ok_iff.mp accepted
    obtain ⟨t, dated, accepted⟩ := except_bind_eq_ok_iff.mp accepted
    rw [orElse_eq_ok_iff, BillingType.ofTag?_eq_some_iff] at named
    rw [orElse_eq_ok_iff] at dated
    cases type with
    | oneTime =>
      cases accepted
      exact .oneTime named dated
    | recurring =>
      obtain ⟨rule, read, same⟩ := except_bind_eq_ok_iff.mp accepted
      cases same
      exact .recurring named dated (rule_eq_ok_iff.mp read)
  · intro asks
    cases asks with
    | oneTime named dated =>
      refine except_bind_eq_ok_iff.mpr ⟨.oneTime, orElse_eq_ok_iff.mpr ?_, ?_⟩
      · exact BillingType.ofTag?_eq_some_iff.mpr named
      · exact except_bind_eq_ok_iff.mpr ⟨_, orElse_eq_ok_iff.mpr dated, rfl⟩
    | recurring named dated ruled =>
      refine except_bind_eq_ok_iff.mpr ⟨.recurring, orElse_eq_ok_iff.mpr ?_, ?_⟩
      · exact BillingType.ofTag?_eq_some_iff.mpr named
      · refine except_bind_eq_ok_iff.mpr ⟨_, orElse_eq_ok_iff.mpr dated, ?_⟩
        exact except_bind_eq_ok_iff.mpr ⟨_, rule_eq_ok_iff.mpr ruled, rfl⟩

/-! ### What it takes to be accepted -/

/-- A number from one to `high` was entered. -/
def Entered (high : Int) (value : Option Int) : Prop := ∃ n, value = some n ∧ 1 ≤ n ∧ n ≤ high

/-- A rule was entered in full. -/
inductive HasRule (d : BillingDraft) : Prop
  | interval (named : d.recurrenceType.map Text.trim ∈ [none, some "", some "interval"])
      (count : Entered 4294967295 d.intervalCount)
      (unit : ∃ word, d.intervalUnit = some word ∧
        Text.trim word ∈ ["day", "week", "month", "year"])
  | monthlyDate (named : d.recurrenceType.map Text.trim = some "monthly_date")
      (day : Entered 31 d.monthlyDay)
  | yearlyDate (named : d.recurrenceType.map Text.trim = some "yearly_date")
      (month : Entered 12 d.yearlyMonth) (day : Entered 31 d.yearlyDay)

/-- The draft has a time, a word for a billing type and, if it recurs, a rule. -/
structure Acceptable (d : BillingDraft) : Prop where
  dated : d.nextOccurrence ≠ none
  typed : Text.trim d.billingType ∈ ["recurring", "one_time", "lifetime"]
  ruled : Text.trim d.billingType = "recurring" → d.HasRule

/-- A number entered in a range that fits into 32 bits is a word. -/
theorem entered_iff {high : Nat} (fits : high ≤ Width.maxWord32) {value : Option Int} :
    Entered high value ↔
      ∃ word : UInt32, value = some (word.toNat : Int) ∧ 1 ≤ word.toNat ∧ word.toNat ≤ high := by
  unfold Width.maxWord32 at fits
  constructor
  · rintro ⟨n, rfl, low, le⟩
    have same : (UInt32.ofNat n.toNat).toNat = n.toNat := by
      rw [UInt32.toNat_ofNat', Nat.mod_eq_of_lt (by omega)]
    refine ⟨.ofNat n.toNat, ?_, ?_⟩
    · rw [same, Int.toNat_of_nonneg (by omega)]
    · omega
  · rintro ⟨word, rfl, low, le⟩
    exact ⟨_, rfl, by omega, by omega⟩

theorem namesRecurrence_interval_iff : d.NamesRecurrence .interval ↔
    d.recurrenceType.map Text.trim ∈ [none, some "", some "interval"] := by
  have nothing : Text.trim "" = "" := rfl
  unfold NamesRecurrence
  cases d.recurrenceType with
  | none => simp [RecurrenceType.words, nothing]
  | some word => simp [RecurrenceType.words]

/-- A kind of recurrence other than an interval is named by its own word only. -/
theorem namesRecurrence_iff (d : BillingDraft) (kind : RecurrenceType) (other : kind ≠ .interval) :
    d.NamesRecurrence kind ↔ d.recurrenceType.map Text.trim = some kind.tag := by
  have nothing : Text.trim "" = "" := rfl
  unfold NamesRecurrence
  cases d.recurrenceType with
  | none => cases kind <;> simp_all [RecurrenceType.words]
  | some word => cases kind <;> simp_all [RecurrenceType.words, RecurrenceType.tag]

theorem exists_namesUnit_iff : (∃ unit, d.NamesUnit unit) ↔
    ∃ word, d.intervalUnit = some word ∧ Text.trim word ∈ ["day", "week", "month", "year"] := by
  unfold NamesUnit
  constructor
  · rintro ⟨unit, named⟩
    obtain ⟨word, entered, named⟩ := Option.map_eq_some_iff.mp named
    refine ⟨word, entered, ?_⟩
    rw [named]
    cases unit <;> simp [IntervalUnit.tag]
  · rintro ⟨word, entered, named⟩
    rw [entered, Option.map_some]
    simp only [List.mem_cons, List.not_mem_nil, or_false] at named
    rcases named with named | named | named | named
    · exact ⟨.day, congrArg some named⟩
    · exact ⟨.week, congrArg some named⟩
    · exact ⟨.month, congrArg some named⟩
    · exact ⟨.year, congrArg some named⟩

theorem exists_asksForRule_iff : (∃ rule, d.AsksForRule rule) ↔ d.HasRule := by
  have month : 12 ≤ Width.maxWord32 := by decide
  have day : 31 ≤ Width.maxWord32 := by decide
  have monthly := d.namesRecurrence_iff .monthlyDate nofun
  have yearly := d.namesRecurrence_iff .yearlyDate nofun
  constructor
  · rintro ⟨rule, asks⟩
    cases asks with
    | @interval count unit named counted positive unitNamed =>
      have room := count.toNat_lt
      apply HasRule.interval (namesRecurrence_interval_iff.mp named)
      · exact ⟨_, counted, by omega, by omega⟩
      · exact exists_namesUnit_iff.mp ⟨unit, unitNamed⟩
    | monthlyDate named entered range =>
      apply HasRule.monthlyDate (monthly.mp named)
      exact (entered_iff day).mpr ⟨_, entered, range⟩
    | yearlyDate named enteredMonth rangeMonth enteredDay rangeDay =>
      apply HasRule.yearlyDate (yearly.mp named)
      · exact (entered_iff month).mpr ⟨_, enteredMonth, rangeMonth⟩
      · exact (entered_iff day).mpr ⟨_, enteredDay, rangeDay⟩
  · intro has
    cases has with
    | interval named count unit =>
      obtain ⟨count, counted, positive, -⟩ := (entered_iff (Nat.le_refl _)).mp count
      obtain ⟨unit, unitNamed⟩ := exists_namesUnit_iff.mpr unit
      exact ⟨_, .interval (namesRecurrence_interval_iff.mpr named) counted positive unitNamed⟩
    | monthlyDate named entered =>
      obtain ⟨day, entered, range⟩ := (entered_iff day).mp entered
      exact ⟨_, .monthlyDate (monthly.mpr named) entered range⟩
    | yearlyDate named enteredMonth enteredDay =>
      obtain ⟨month, enteredMonth, rangeMonth⟩ := (entered_iff month).mp enteredMonth
      obtain ⟨day, enteredDay, rangeDay⟩ := (entered_iff day).mp enteredDay
      exact ⟨_, .yearlyDate (yearly.mpr named) enteredMonth rangeMonth enteredDay rangeDay⟩

/-- A draft asks for billing exactly when it is acceptable. -/
theorem exists_asksFor_iff : (∃ b, d.AsksFor b) ↔ d.Acceptable := by
  constructor
  · rintro ⟨b, asks⟩
    cases asks with
    | oneTime named dated =>
      simp only [NamesType, BillingType.words, List.mem_cons, List.not_mem_nil, or_false] at named
      refine ⟨by simp [dated], by simp [named], ?_⟩
      intro recurs
      rw [recurs] at named
      simp at named
    | recurring named dated ruled =>
      simp only [NamesType, BillingType.words, List.mem_singleton] at named
      exact ⟨by simp [dated], by simp [named], fun _ => exists_asksForRule_iff.mp ⟨_, ruled⟩⟩
  · intro acceptable
    obtain ⟨t, dated⟩ := Option.ne_none_iff_exists'.mp acceptable.dated
    rcases List.mem_cons.mp acceptable.typed with recurs | once
    · obtain ⟨rule, ruled⟩ := exists_asksForRule_iff.mpr (acceptable.ruled recurs)
      exact ⟨_, .recurring (List.mem_singleton.mpr recurs) dated ruled⟩
    · exact ⟨_, .oneTime once dated⟩

/-! ### What has a say -/

/-- Two drafts agree on the day and on the words and numbers that count: on those of a rule only if
they recur, and of all rules only on the one that they name. -/
structure Agrees (d e : BillingDraft) : Prop where
  date : d.nextOccurrence.map Instant.date = e.nextOccurrence.map Instant.date
  type : ∀ type, d.NamesType type ↔ e.NamesType type
  recurrence : d.NamesType .recurring → ∀ kind, d.NamesRecurrence kind ↔ e.NamesRecurrence kind
  interval : d.NamesType .recurring → d.NamesRecurrence .interval →
    d.intervalCount = e.intervalCount ∧ ∀ unit, d.NamesUnit unit ↔ e.NamesUnit unit
  monthlyDate : d.NamesType .recurring → d.NamesRecurrence .monthlyDate →
    d.monthlyDay = e.monthlyDay
  yearlyDate : d.NamesType .recurring → d.NamesRecurrence .yearlyDate →
    d.yearlyMonth = e.yearlyMonth ∧ d.yearlyDay = e.yearlyDay

namespace Agrees

theorem symm (agrees : d.Agrees e) : e.Agrees d where
  date := agrees.date.symm
  type type := (agrees.type type).symm
  recurrence recurs kind := (agrees.recurrence ((agrees.type _).mpr recurs) kind).symm
  interval recurs named := by
    have recurs := (agrees.type _).mpr recurs
    obtain ⟨count, unit⟩ := agrees.interval recurs ((agrees.recurrence recurs _).mpr named)
    exact ⟨count.symm, fun u => (unit u).symm⟩
  monthlyDate recurs named := by
    have recurs := (agrees.type _).mpr recurs
    exact (agrees.monthlyDate recurs ((agrees.recurrence recurs _).mpr named)).symm
  yearlyDate recurs named := by
    have recurs := (agrees.type _).mpr recurs
    obtain ⟨month, day⟩ := agrees.yearlyDate recurs ((agrees.recurrence recurs _).mpr named)
    exact ⟨month.symm, day.symm⟩

theorem asksForRule (agrees : d.Agrees e) (recurs : d.NamesType .recurring) {rule : BillingRule}
    (asks : d.AsksForRule rule) : e.AsksForRule rule := by
  have named := agrees.recurrence recurs
  cases asks with
  | interval kind counted positive unitNamed =>
    obtain ⟨count, unit⟩ := agrees.interval recurs kind
    exact .interval ((named _).mp kind) (count ▸ counted) positive ((unit _).mp unitNamed)
  | monthlyDate kind entered range =>
    exact .monthlyDate ((named _).mp kind) (agrees.monthlyDate recurs kind ▸ entered) range
  | yearlyDate kind enteredMonth rangeMonth enteredDay rangeDay =>
    obtain ⟨month, day⟩ := agrees.yearlyDate recurs kind
    exact .yearlyDate ((named _).mp kind) (month ▸ enteredMonth) rangeMonth (day ▸ enteredDay)
      rangeDay

theorem asksFor (agrees : d.Agrees e) {b : Billing} (asks : d.AsksFor b) : e.AsksFor b := by
  -- Only the day of a time is part of the billing, so the other draft may have another time.
  have sameDay {t : Instant} (dated : d.nextOccurrence = some t) :
      ∃ t', e.nextOccurrence = some t' ∧ t'.date = t.date := by
    have date := agrees.date
    rw [dated, Option.map_some] at date
    exact Option.map_eq_some_iff.mp date.symm
  cases asks with
  | oneTime named dated =>
    obtain ⟨t', dated, same⟩ := sameDay dated
    rw [← same]
    exact .oneTime ((agrees.type _).mp named) dated
  | recurring named dated ruled =>
    obtain ⟨t', dated, same⟩ := sameDay dated
    rw [← same]
    exact .recurring ((agrees.type _).mp named) dated (agrees.asksForRule named ruled)

/-- Drafts that agree ask for the same. -/
theorem asksFor_iff (agrees : d.Agrees e) (b : Billing) : d.AsksFor b ↔ e.AsksFor b :=
  ⟨agrees.asksFor, agrees.symm.asksFor⟩

end Agrees

end BillingDraft

/-! ### Accepted billing entered again -/

namespace Billing

variable {b : Billing}

/-- The rule of billing is the one that its draft asks for, if its numbers are in range. -/
theorem asksForRule_toDraft {rule : BillingRule} (ruled : b.rule = some rule)
    (inRange : rule.InRange) : b.toDraft.AsksForRule rule := by
  have kindNamed {kind : RecurrenceType} (h : b.recurrenceType = some kind) :
      b.toDraft.NamesRecurrence kind := by
    simp [BillingDraft.NamesRecurrence, toDraft, h, kind.tag_mem_words]
  cases rule with
  | interval count unit =>
    apply BillingDraft.AsksForRule.interval (kindNamed (by simp [recurrenceType, ruled]))
    · simp [toDraft, intervalCount, ruled]
    · exact inRange
    · simp [BillingDraft.NamesUnit, toDraft, intervalUnit, ruled]
  | monthlyDate day =>
    apply BillingDraft.AsksForRule.monthlyDate (kindNamed (by simp [recurrenceType, ruled]))
    · simp [toDraft, monthlyDay, ruled]
    · exact inRange
  | yearlyDate month day =>
    apply BillingDraft.AsksForRule.yearlyDate (kindNamed (by simp [recurrenceType, ruled]))
    · simp [toDraft, yearlyMonth, ruled]
    · exact inRange.1
    · simp [toDraft, yearlyDay, ruled]
    · exact inRange.2

/-- Billing whose numbers are in range asks for itself when it is entered. -/
theorem asksFor_toDraft (inRange : ∀ rule, b.rule = some rule → rule.InRange) :
    b.toDraft.AsksFor b := by
  obtain ⟨date, rule⟩ := b
  have typeNamed : (toDraft ⟨date, rule⟩).NamesType (billingType ⟨date, rule⟩) := by
    simp [BillingDraft.NamesType, toDraft, BillingType.tag_mem_words]
  cases rule with
  | none => exact .oneTime (t := .startOf date) typeNamed rfl
  | some rule =>
    exact .recurring (t := .startOf date) typeNamed rfl (asksForRule_toDraft rfl (inRange rule rfl))

end Billing

/-- **Acceptance of drafts is exact and depends only on what counts.** A draft is accepted when it
has a time, a word for a billing type and, if it recurs, a rule in full, and else it is refused as
invalid input. Drafts that agree on what counts are accepted or refused alike, and as the same
billing. Accepted billing, written as a draft and entered again, is accepted unchanged. -/
theorem BillingDraft.acceptance_exact (d : BillingDraft) :
    ((∃ b, d.normalize = .ok b) ↔ d.Acceptable) ∧
      (¬d.Acceptable → ∃ cause : ValidationError,
        d.normalize.mapError (fun problem => Failure.validation (.billing problem)) =
          .error (.validation cause)) ∧
      (∀ e, d.Agrees e → ∀ b, d.normalize = .ok b ↔ e.normalize = .ok b) ∧
      ∀ b, d.normalize = .ok b → b.toDraft.normalize = .ok b := by
  have accepted : (∃ b, d.normalize = .ok b) ↔ d.Acceptable := by
    simp only [normalize_eq_ok_iff, exists_asksFor_iff]
  refine ⟨accepted, ?_, ?_, ?_⟩
  · intro unacceptable
    cases read : d.normalize with
    | ok b => exact absurd (accepted.mp ⟨b, read⟩) unacceptable
    | error problem => exact ⟨.billing problem, rfl⟩
  · intro e agrees b
    rw [normalize_eq_ok_iff, normalize_eq_ok_iff]
    exact agrees.asksFor_iff b
  · intro b read
    obtain ⟨-, inRange⟩ := of_normalize read
    exact normalize_eq_ok_iff.mpr (Billing.asksFor_toDraft inRange)

namespace Sample

/-- The last day of each month again, entered a second before midnight, with what is left over from
other rules. -/
def cluttered : BillingDraft :=
  ⟨"recurring", some "\tmonthly_date", some 0, some "fortnight", some 31, some 13, none,
    some { Instant.startOf march with
      second := 86399
      second_lt := by decide
      leap := fun _ => rfl }⟩

theorem agrees_cluttered : draft.Agrees cluttered where
  date := rfl
  type type := by
    cases type <;> exact iff_of_eq rfl
  recurrence _ kind := by
    cases kind <;> exact iff_of_eq rfl
  interval _ named := absurd named (by decide : ¬ "monthly_date" ∈ RecurrenceType.interval.words)
  monthlyDate _ _ := rfl
  yearlyDate _ named :=
    absurd named (by decide : ¬ "monthly_date" ∈ RecurrenceType.yearlyDate.words)

end Sample

/-- What is left over from other rules, and the time of day, make no difference. -/
theorem BillingDraft.acceptance_exact_sample :
    Sample.draft.Agrees Sample.cluttered ∧ Sample.cluttered ≠ Sample.draft ∧
      ∃ b, Sample.draft.normalize = .ok b ∧ Sample.cluttered.normalize = .ok b ∧
        b.toDraft.normalize = .ok b ∧ Sample.cluttered.Acceptable := by
  have accepted : Sample.draft.normalize = .ok ⟨Sample.march, some (.monthlyDate 31)⟩ := by rfl
  obtain ⟨-, -, alike, again⟩ := acceptance_exact Sample.draft
  have cluttered := (alike _ Sample.agrees_cluttered _).mp accepted
  refine ⟨Sample.agrees_cluttered, by decide, _, accepted, cluttered, again _ accepted, ?_⟩
  exact (acceptance_exact Sample.cluttered).1.mp ⟨_, cluttered⟩

end Reminders
