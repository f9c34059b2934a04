import Reminders.Proofs.Store.Movement

/-!
Rows that can be read.

Every column is read from values of a certain kind, and a value of another kind fails the query that
meets it. What the store writes itself is always of the right kind. A value that others put there need
not be; still it does no harm when the query does not get as far as its column.

* `Subscription.exists_ofRow_iff`: which rows of subscriptions can be read.
* `Subscription.isTidy_stored`: what the store writes for a subscription can be read.
-/

namespace Reminders

/-! ### Reading a cell -/

namespace Cell

variable {place : Place} {c : Cell}

theorem exists_readInt_iff : (∃ n, readInt place c = .ok n) ↔ ∃ n, c = .integer n := by
  cases c <;> simp [readInt, refuse]

theorem exists_readText_iff : (∃ s, readText place c = .ok s) ↔ ∃ s, c = .text s := by
  cases c <;> simp [readText, refuse]

theorem exists_readBool_iff : (∃ b, readBool place c = .ok b) ↔ ∃ n, c = .integer n := by
  cases c with
  | integer n => exact ⟨fun _ => ⟨n, rfl⟩, fun _ => ⟨_, rfl⟩⟩
  | null | real | text => simp [readBool, refuse]

theorem exists_readReal_iff :
    (∃ x, readReal place c = .ok x) ↔ (∃ n, c = .integer n) ∨ ∃ x, c = .real x := by
  cases c <;> simp [readReal, refuse]

/-- A value that may be absent is read when there is none or when it is read. -/
theorem exists_readOption_iff {read : Cell → Except TableFault α} :
    (∃ o, readOption read c = .ok o) ↔ c = .null ∨ ∃ a, read c = .ok a := by
  cases c with
  | null => exact ⟨fun _ => .inl rfl, fun _ => ⟨none, rfl⟩⟩
  | integer | real | text =>
    rw [readOption]
    · cases read _ <;> simp [Except.map]
    · intro isNull
      cases isNull

/-- An integer out of range is read, as none. -/
theorem exists_readWord?_iff :
    (∃ o, readWord? place c = .ok o) ↔ c = .null ∨ ∃ n, c = .integer n := by
  have reads : (∃ o, readWord? place c = .ok o) ↔ ∃ o, readOption (readInt place) c = .ok o := by
    unfold readWord?
    rw [exists_except_bind_iff]
    exact ⟨fun ⟨o, read, _⟩ => ⟨o, read⟩, fun ⟨o, read⟩ => ⟨o, read, _, rfl⟩⟩
  rw [reads, exists_readOption_iff, exists_readInt_iff]

/-- A double is stored as nothing, as an integer or as it is. -/
theorem ofFloat_eq_or (x : Float) :
    ofFloat x = .null ∨ (∃ n, ofFloat x = .integer n) ∨ ofFloat x = .real x := by
  unfold ofFloat
  split
  · exact .inl rfl
  · exact .inr (.inr rfl)
  · -- The sign decides which integer it may be.
    dsimp only
    split
    all_goals
      split
      · exact .inr (.inl ⟨_, rfl⟩)
      · exact .inr (.inr rfl)

/-- What a column of doubles makes of a double is a double, or nothing. -/
theorem store_real_real (x : Float) :
    Cell.store .real (.real x) = .null ∨ ∃ y, Cell.store .real (.real x) = .real y := by
  rw [Cell.store]
  rcases ofFloat_eq_or x with none | ⟨n, whole⟩ | same
  · rw [none]
    exact .inl rfl
  · rw [whole]
    exact .inr ⟨_, rfl⟩
  · rw [same]
    exact .inr ⟨_, rfl⟩

end Cell

/-! ### Reading a row -/

/-- The column is read from values of this kind. -/
def SubscriptionColumn.Takes (c : Cell) : SubscriptionColumn → Prop
  | .userId | .enabled => ∃ n, c = .integer n
  | .name | .billingType | .currency => ∃ s, c = .text s
  | .amount => (∃ n, c = .integer n) ∨ ∃ x, c = .real x
  | .intervalCount | .monthlyDay | .yearlyMonth | .yearlyDay | .notifyEnabled | .notifyDaysBefore =>
    c = .null ∨ ∃ n, c = .integer n
  | .recurrenceType | .intervalUnit | .nextOccurrence | .category | .paymentMethod | .url | .remark =>
    c = .null ∨ ∃ s, c = .text s

/-- Every column of the row is read from what it holds. -/
def Row.IsTidy (r : Row SubscriptionColumn) : Prop := ∀ k : SubscriptionColumn, k.Takes (r.cell k)

/-- The billing type in the row is known, and the text of its date, if there is one, is that of a
date. -/
structure Row.Understood (r : Row SubscriptionColumn) : Prop where
  billingType : ∃ tag type, r.cell .billingType = .text tag ∧ BillingType.ofTag? tag = some type
  nextOccurrence : ∀ text, r.cell .nextOccurrence = .text text → ∃ date, Date.parse text = .ok date

namespace Row

variable {r : Row SubscriptionColumn}

theorem Understood.exists_mapM (understood : r.Understood) {place : Cell.Place}
    {text? : Option String}
    (read : Cell.readOption (Cell.readText place) (r.cell .nextOccurrence) = .ok text?) :
    ∃ date, text?.mapM readDate = .ok date := by
  cases stored : r.cell .nextOccurrence with
  | null =>
    rw [stored] at read
    cases read
    exact ⟨none, rfl⟩
  | integer | real =>
    rw [stored] at read
    cases read
  | text text =>
    rw [stored] at read
    cases read
    obtain ⟨date, parsed⟩ := understood.nextOccurrence text stored
    refine ⟨some date, ?_⟩
    simp only [Option.mapM_some, readDate, parsed]
    rfl

theorem understood_of_mapM {place : Cell.Place} {tag : String} {type : BillingType}
    {text? : Option String} {date : Option Date} (stored : r.cell .billingType = .text tag)
    (known : BillingType.ofTag? tag = some type)
    (read : Cell.readOption (Cell.readText place) (r.cell .nextOccurrence) = .ok text?)
    (parsed : text?.mapM readDate = .ok date) : r.Understood := by
  refine ⟨⟨tag, type, stored, known⟩, fun text stored => ?_⟩
  rw [stored] at read
  cases read
  simp only [Option.mapM_some, readDate] at parsed
  cases found : Date.parse text with
  | ok date => exact ⟨date, rfl⟩
  | error e =>
    rw [found] at parsed
    cases parsed

/-- The row can be read: its billing type and its date are of the right kind, and so are its other
columns, unless the row is given up before they are read because its billing type is unknown or its
date is none. -/
structure Legible (r : Row SubscriptionColumn) : Prop where
  billingType : SubscriptionColumn.billingType.Takes (r.cell .billingType)
  nextOccurrence : SubscriptionColumn.nextOccurrence.Takes (r.cell .nextOccurrence)
  tidy : r.Understood → r.IsTidy

theorem IsTidy.legible (tidy : r.IsTidy) : r.Legible :=
  ⟨tidy .billingType, tidy .nextOccurrence, fun _ => tidy⟩

/-- A row that is understood can be read when every column can. -/
theorem Understood.exists_ofRow_iff (understood : r.Understood)
    (date : SubscriptionColumn.nextOccurrence.Takes (r.cell .nextOccurrence)) :
    (∃ x, Subscription.ofRow r = .ok x) ↔ r.IsTidy := by
  obtain ⟨tag, type, billing, known⟩ := understood.billingType
  have readable : ∃ text?, Cell.readOption (Cell.readText (Subscription.place .nextOccurrence))
      (r.cell .nextOccurrence) = .ok text? := by
    rw [Cell.exists_readOption_iff, Cell.exists_readText_iff]
    exact date
  obtain ⟨text?, read⟩ := readable
  obtain ⟨next, parsed⟩ := understood.exists_mapM read
  have first : Cell.readText (Subscription.place .billingType) (r.cell .billingType) = .ok tag :=
    Cell.readText_eq_ok_iff.mpr billing
  unfold Subscription.ofRow
  simp only [exists_except_bind_iff, first, read, Except.ok.injEq, exists_eq_left', known, parsed,
    pure, Except.pure, exists_eq', and_true, exists_and_right, Cell.exists_readInt_iff,
    Cell.exists_readText_iff, Cell.exists_readBool_iff, Cell.exists_readReal_iff,
    Cell.exists_readOption_iff, Cell.exists_readWord?_iff]
  constructor
  · rintro ⟨userId, name, recurrenceType, intervalCount, intervalUnit, monthlyDay, yearlyMonth,
      yearlyDay, amount, currency, enabled, notifyEnabled, notifyDaysBefore, category,
      paymentMethod, url, remark⟩ k
    cases k with
    | billingType => exact ⟨tag, billing⟩
    | nextOccurrence => exact date
    | _ => assumption
  · intro tidy
    exact ⟨tidy .userId, tidy .name, tidy .recurrenceType, tidy .intervalCount, tidy .intervalUnit,
      tidy .monthlyDay, tidy .yearlyMonth, tidy .yearlyDay, tidy .amount, tidy .currency,
      tidy .enabled, tidy .notifyEnabled, tidy .notifyDaysBefore, tidy .category,
      tidy .paymentMethod, tidy .url, tidy .remark⟩

end Row

/-- **Which rows can be read.** -/
theorem Subscription.exists_ofRow_iff {r : Row SubscriptionColumn} :
    (∃ x, Subscription.ofRow r = .ok x) ↔ r.Legible := by
  constructor
  · rintro ⟨x, read⟩
    have whole := read
    unfold Subscription.ofRow at read
    obtain ⟨tag, billing, read⟩ := except_bind_eq_ok_iff.mp read
    obtain ⟨text?, date, -⟩ := except_bind_eq_ok_iff.mp read
    have takes : SubscriptionColumn.nextOccurrence.Takes (r.cell .nextOccurrence) := by
      have reads := Cell.exists_readOption_iff.mp ⟨text?, date⟩
      rwa [Cell.exists_readText_iff] at reads
    exact ⟨⟨tag, Cell.readText_eq_ok_iff.mp billing⟩, takes, fun understood =>
      (understood.exists_ofRow_iff takes).mp ⟨x, whole⟩⟩
  · rintro ⟨⟨tag, billing⟩, date, tidy⟩
    by_cases understood : r.Understood
    · exact (understood.exists_ofRow_iff date).mpr (tidy understood)
    · -- The row is given up as soon as its billing type and its date are known.
      have readable : ∃ text?, Cell.readOption (Cell.readText (place .nextOccurrence))
          (r.cell .nextOccurrence) = .ok text? := by
        rw [Cell.exists_readOption_iff, Cell.exists_readText_iff]
        exact date
      obtain ⟨text?, read⟩ := readable
      have first : Cell.readText (place .billingType) (r.cell .billingType) = .ok tag :=
        Cell.readText_eq_ok_iff.mpr billing
      unfold Subscription.ofRow
      simp only [exists_except_bind_iff, first, read, Except.ok.injEq, exists_eq_left']
      cases known : BillingType.ofTag? tag with
      | none => exact ⟨_, rfl⟩
      | some type =>
        cases parsed : text?.mapM readDate with
        | error defect => exact ⟨_, rfl⟩
        | ok next => exact absurd (Row.understood_of_mapM billing known read parsed) understood

/-- A move leaves every column of the right kind. -/
theorem Row.IsTidy.movedTo {r : Row SubscriptionColumn} (tidy : r.IsTidy) (d : Date) :
    (r.movedTo d).IsTidy := by
  intro k
  by_cases date : k = .nextOccurrence
  · rw [date]
    exact .inr ⟨d.toText, rfl⟩
  · rw [movedTo_cell d date]
    exact tidy k

/-! ### What is written -/

namespace Cell

theorem store_text_ofOption (f : α → String) (o : Option α) :
    Cell.store .text (ofOption (fun a => .text (f a)) o) = .null ∨
      ∃ s, Cell.store .text (ofOption (fun a => .text (f a)) o) = .text s := by
  cases o with
  | none => exact .inl rfl
  | some a => exact .inr ⟨f a, rfl⟩

theorem store_integer_ofOption (f : α → Int) (o : Option α) :
    Cell.store .integer (ofOption (fun a => .integer (f a)) o) = .null ∨
      ∃ n, Cell.store .integer (ofOption (fun a => .integer (f a)) o) = .integer n := by
  cases o with
  | none => exact .inl rfl
  | some a => exact .inr ⟨f a, rfl⟩

theorem word_range (n : UInt32) : 0 ≤ (n.toNat : Int) ∧ (n.toNat : Int) ≤ Width.maxWord32 := by
  have := n.toNat_lt
  simp only [Width.maxWord32]
  omega

/-- A word is read as it was written. -/
theorem readWord_ofWord (place : Place) (n : UInt32) : readWord place (ofWord n) = .ok n := by
  change (if 0 ≤ (n.toNat : Int) ∧ (n.toNat : Int) ≤ Width.maxWord32
    then Except.ok (UInt32.ofNat (n.toNat : Int).toNat) else _) = _
  rw [if_pos (word_range n), Int.toNat_natCast, UInt32.ofNat_toNat]

end Cell

/-- A row that is accepted holds a value wherever it must. -/
theorem Table.not_isNull_of_checkRequired [Columns κ] {cells : κ → Cell}
    (checked : checkRequired cells = .ok ()) {k : κ} (known : k ∈ (Columns.all : List κ))
    (required : Columns.required k = true) : ¬(cells k).IsNull := by
  intro null
  unfold checkRequired at checked
  split at checked
  · cases checked
  · rename_i none
    have absent := List.find?_eq_none.mp none k known
    rw [required, decide_eq_true null] at absent
    exact absent rfl

/-- **What the store writes for a subscription can be read.** -/
theorem Subscription.isTidy_stored (sub : Subscription) (id : Int)
    (checked : Table.checkRequired (Table.stored sub.toCells) = .ok ()) :
    Row.IsTidy ⟨id, Table.stored sub.toCells⟩ := by
  intro k
  cases k with
  | userId => exact ⟨sub.userId, rfl⟩
  | name => exact ⟨sub.name, rfl⟩
  | billingType => exact ⟨sub.billingType.tag, rfl⟩
  | currency => exact ⟨sub.currency, rfl⟩
  | enabled => exact ⟨_, rfl⟩
  | recurrenceType => exact Cell.store_text_ofOption RecurrenceType.tag sub.recurrenceType
  | intervalUnit => exact Cell.store_text_ofOption IntervalUnit.tag sub.intervalUnit
  | nextOccurrence => exact Cell.store_text_ofOption Date.toText sub.nextOccurrence
  | category => exact Cell.store_text_ofOption (fun text => text) sub.category
  | paymentMethod => exact Cell.store_text_ofOption (fun text => text) sub.paymentMethod
  | url => exact Cell.store_text_ofOption (fun text => text) sub.url
  | remark => exact Cell.store_text_ofOption (fun text => text) sub.remark
  | intervalCount => exact Cell.store_integer_ofOption (fun n => (n.toNat : Int)) sub.intervalCount
  | monthlyDay => exact Cell.store_integer_ofOption (fun n => (n.toNat : Int)) sub.monthlyDay
  | yearlyMonth => exact Cell.store_integer_ofOption (fun n => (n.toNat : Int)) sub.yearlyMonth
  | yearlyDay => exact Cell.store_integer_ofOption (fun n => (n.toNat : Int)) sub.yearlyDay
  | notifyEnabled =>
    exact Cell.store_integer_ofOption (fun b => if b then 1 else 0) sub.notifyEnabled
  | notifyDaysBefore =>
    exact Cell.store_integer_ofOption (fun n => (n.toNat : Int)) sub.notifyDaysBefore
  | amount =>
    -- Only an amount that is no number would be stored as nothing, and that is refused.
    have present := Table.not_isNull_of_checkRequired checked (k := .amount) (by decide) rfl
    by_cases noNumber : sub.amount.isNaN
    · refine absurd ?_ present
      rw [Table.stored, toCells, if_pos noNumber]
      trivial
    · have cell : Table.stored sub.toCells .amount = Cell.store .real (.real sub.amount) := by
        rw [Table.stored, toCells, if_neg noNumber]
        rfl
      rcases Cell.store_real_real sub.amount with null | real
      · rw [cell, null] at present
        exact absurd trivial present
      · rw [← cell] at real
        exact .inr real

/-- A policy is read as it was written. -/
theorem Policy.ofRow_toCells (id : Int) (p : Policy) :
    Policy.ofRow ⟨id, p.toCells⟩ = .ok ⟨id, p.daysBefore, p.onDueDay⟩ := by
  unfold Policy.ofRow
  simp only [Policy.toCells, Cell.readWord_ofWord]
  cases p.onDueDay <;> rfl

theorem Policy.exists_ofRow_toCells (id : Int) (p : Policy) :
    ∃ q, Policy.ofRow ⟨id, p.toCells⟩ = .ok q := ⟨_, ofRow_toCells id p⟩

theorem Channel.exists_ofRow_toCells (id user : Int) (type : ChannelType) (config : Json)
    (template : Option String) :
    ∃ c, Channel.ofRow ⟨id, Channel.toCells user type config template⟩ = .ok c := by
  cases template <;> exact ⟨_, rfl⟩

end Reminders
