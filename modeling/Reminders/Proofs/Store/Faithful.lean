import Reminders.Proofs.Calendar.WrittenDate
import Reminders.Proofs.Decimal.Whole
import Reminders.Proofs.Scheduler.AtMostOnce
import Reminders.Proofs.Store.Reopen
import Reminders.Proofs.Store.Tidy

/-!
Subscriptions in storage.

A subscription is written into nineteen columns, by tags, texts and numbers, and read back from them
one by one. What is read is what was written: the tags are known, dates are read as they were written,
numbers fit, and the amount equals the one that was given, though a column of doubles stores it as an
integer when it is whole. An amount that is no number is stored as nothing, and that is refused.

* `Subscription.ofRow_stored`: what is read of a subscription that was stored.
* `Store.insertSubscription_eq`: when a subscription is taken, and what is written then.
* `Store.subscriptions_survive_storage`
-/

namespace Reminders

/-! ### Cells -/

namespace Cell

/-- A number is stored as one that equals it. -/
theorem store_real_eq {x : Float} (number : x.isNaN = false) :
    ∃ y, store .real (.real x) = .real y ∧ (y == x) = true := by
  have same : ∃ y, store.asReal (.real x) = .real y ∧ (y == x) = true :=
    ⟨x, rfl, Binary.beq_self number⟩
  rw [store, ofFloat]
  cases h : Binary.ofFloat x with
  | nan =>
    rw [Binary.ofFloat_eq_nan_iff.mp h] at number
    cases number
  | infinite negative => exact same
  | finite negative m e =>
    have equals := Binary.ofInt_beq h
    dsimp only
    generalize (if negative then -((Ratio.shift2 m e).num / (Ratio.shift2 m e).den : Nat)
      else ((Ratio.shift2 m e).num / (Ratio.shift2 m e).den : Nat) : Int) = n at equals ⊢
    split
    · rename_i whole
      exact ⟨_, rfl, equals whole.1⟩
    · exact same

variable {place : Place}

theorem readOption_text_stored (f : α → String) (o : Option α) :
    readOption (readText place) (store .text (ofOption (fun a => .text (f a)) o)) =
      .ok (o.map f) := by
  cases o <;> rfl

theorem readWord?_stored (o : Option UInt32) :
    readWord? place (store .integer (ofOption ofWord o)) = .ok o := by
  cases o with
  | none => rfl
  | some n =>
    change Except.ok (if 0 ≤ (n.toNat : Int) ∧ (n.toNat : Int) ≤ Width.maxWord32
      then some (UInt32.ofNat (n.toNat : Int).toNat) else none) = _
    rw [if_pos (word_range n), Int.toNat_natCast, UInt32.ofNat_toNat]

theorem readBool_stored (b : Bool) : readBool place (store .integer (ofBool b)) = .ok b := by
  cases b <;> rfl

theorem readOption_bool_stored (o : Option Bool) :
    readOption (readBool place) (store .integer (ofOption ofBool o)) = .ok o := by
  cases o with
  | none => rfl
  | some b => cases b <;> rfl

end Cell

/-! ### Rows -/

namespace Subscription

variable {sub : Subscription}

/-- What is read of a subscription that was stored under an id. -/
theorem ofRow_stored (sub : Subscription) (id : Int) {amount : Float}
    (stored : Table.stored sub.toCells .amount = .real amount) :
    Subscription.ofRow ⟨id, Table.stored sub.toCells⟩ = .ok (.ok { sub with id, amount }) := by
  have date : (sub.nextOccurrence.map Date.toText).mapM readDate = .ok sub.nextOccurrence := by
    cases sub.nextOccurrence with
    | none => rfl
    | some d =>
      simp only [Option.map_some, Option.mapM_some, readDate, Date.parse_toText]
      rfl
  have recurrence : (sub.recurrenceType.map RecurrenceType.tag).bind RecurrenceType.ofTag? =
      sub.recurrenceType := by
    cases sub.recurrenceType <;> simp
  have unit : (sub.intervalUnit.map IntervalUnit.tag).bind IntervalUnit.ofTag? =
      sub.intervalUnit := by
    cases sub.intervalUnit <;> simp
  have same (o : Option String) : o.map (fun text => text) = o := by cases o <;> rfl
  unfold Subscription.ofRow
  -- Column by column, in the order in which they are read.
  refine except_bind_eq_ok_iff.mpr ⟨sub.billingType.tag, rfl, ?_⟩
  refine except_bind_eq_ok_iff.mpr ⟨_, Cell.readOption_text_stored _ sub.nextOccurrence, ?_⟩
  rw [BillingType.ofTag?_tag, date]
  refine except_bind_eq_ok_iff.mpr ⟨sub.userId, rfl, ?_⟩
  refine except_bind_eq_ok_iff.mpr ⟨sub.name, rfl, ?_⟩
  refine except_bind_eq_ok_iff.mpr ⟨_, Cell.readOption_text_stored _ sub.recurrenceType, ?_⟩
  refine except_bind_eq_ok_iff.mpr ⟨_, Cell.readWord?_stored sub.intervalCount, ?_⟩
  refine except_bind_eq_ok_iff.mpr ⟨_, Cell.readOption_text_stored _ sub.intervalUnit, ?_⟩
  refine except_bind_eq_ok_iff.mpr ⟨_, Cell.readWord?_stored sub.monthlyDay, ?_⟩
  refine except_bind_eq_ok_iff.mpr ⟨_, Cell.readWord?_stored sub.yearlyMonth, ?_⟩
  refine except_bind_eq_ok_iff.mpr ⟨_, Cell.readWord?_stored sub.yearlyDay, ?_⟩
  refine except_bind_eq_ok_iff.mpr ⟨amount, congrArg (Cell.readReal _) stored, ?_⟩
  refine except_bind_eq_ok_iff.mpr ⟨sub.currency, rfl, ?_⟩
  refine except_bind_eq_ok_iff.mpr ⟨_, Cell.readBool_stored sub.enabled, ?_⟩
  refine except_bind_eq_ok_iff.mpr ⟨_, Cell.readOption_bool_stored sub.notifyEnabled, ?_⟩
  refine except_bind_eq_ok_iff.mpr ⟨_, Cell.readWord?_stored sub.notifyDaysBefore, ?_⟩
  refine except_bind_eq_ok_iff.mpr ⟨_, Cell.readOption_text_stored _ sub.category, ?_⟩
  refine except_bind_eq_ok_iff.mpr ⟨_, Cell.readOption_text_stored _ sub.paymentMethod, ?_⟩
  refine except_bind_eq_ok_iff.mpr ⟨_, Cell.readOption_text_stored _ sub.url, ?_⟩
  refine except_bind_eq_ok_iff.mpr ⟨_, Cell.readOption_text_stored _ sub.remark, ?_⟩
  rw [recurrence, unit, same, same, same, same]
  rfl

/-- The amount is missing from what is stored exactly when it is no number. -/
theorem isNull_stored_amount_iff :
    (Table.stored sub.toCells .amount).IsNull ↔ sub.amount.isNaN = true := by
  rw [Table.stored, toCells]
  cases number : sub.amount.isNaN with
  | true => exact iff_of_true trivial rfl
  | false =>
    obtain ⟨y, stored, -⟩ := Cell.store_real_eq number
    change (Cell.store .real (.real sub.amount)).IsNull ↔ _
    rw [stored]
    constructor
    · intro null
      exact null.elim
    · intro none
      cases none

/-- No other column that must hold a value can lack one. -/
theorem missing?_stored (sub : Subscription) : Table.missing? (Table.stored sub.toCells) =
    if sub.amount.isNaN then some .amount else none := by
  have lacks (k : SubscriptionColumn) :
      (Columns.required k && decide (Table.stored sub.toCells k).IsNull) =
        (decide (k = .amount) && sub.amount.isNaN) := by
    cases k with
    | amount =>
      have same : decide (Table.stored sub.toCells .amount).IsNull = sub.amount.isNaN := by
        rw [Bool.eq_iff_iff, decide_eq_true_iff]
        exact isNull_stored_amount_iff
      rw [same]
      rfl
    | _ => rfl
  unfold Table.missing?
  simp only [lacks]
  cases sub.amount.isNaN <;> rfl

theorem checkRequired_stored_eq_ok_iff (sub : Subscription) :
    Table.checkRequired (Table.stored sub.toCells) = .ok () ↔ sub.amount.isNaN = false := by
  unfold Table.checkRequired
  rw [sub.missing?_stored]
  cases sub.amount.isNaN <;> simp

/-- The integers that are stored for a subscription fit in 64 bits when the id of its user does. -/
theorem fits_stored (sub : Subscription) (number : sub.amount.isNaN = false)
    (user : Width.IsInt64 sub.userId) (k : SubscriptionColumn) :
    (Table.stored sub.toCells k).Fits := by
  have text {α : Type} (f : α → String) (o : Option α) :
      (Cell.store .text (Cell.ofOption (fun a => .text (f a)) o)).Fits := by
    cases o <;> trivial
  have word (o : Option UInt32) : (Cell.store .integer (Cell.ofOption Cell.ofWord o)).Fits := by
    cases o with
    | none => trivial
    | some n =>
      have := n.toNat_lt
      change Width.minInt64 ≤ (n.toNat : Int) ∧ (n.toNat : Int) ≤ Width.maxInt64
      simp only [Width.minInt64, Width.maxInt64]
      omega
  have bool (b : Bool) : (Cell.store .integer (Cell.ofBool b)).Fits := by
    change Width.IsInt64 (if b then 1 else 0)
    cases b <;> decide
  cases k with
  | userId => exact user
  | name | billingType | currency => trivial
  | recurrenceType => exact text RecurrenceType.tag sub.recurrenceType
  | intervalUnit => exact text IntervalUnit.tag sub.intervalUnit
  | nextOccurrence => exact text Date.toText sub.nextOccurrence
  | category => exact text (fun t => t) sub.category
  | paymentMethod => exact text (fun t => t) sub.paymentMethod
  | url => exact text (fun t => t) sub.url
  | remark => exact text (fun t => t) sub.remark
  | intervalCount => exact word sub.intervalCount
  | monthlyDay => exact word sub.monthlyDay
  | yearlyMonth => exact word sub.yearlyMonth
  | yearlyDay => exact word sub.yearlyDay
  | notifyDaysBefore => exact word sub.notifyDaysBefore
  | enabled => exact bool sub.enabled
  | notifyEnabled =>
    cases given : sub.notifyEnabled with
    | none =>
      rw [Table.stored, toCells, given]
      trivial
    | some b =>
      rw [Table.stored, toCells, given]
      exact bool b
  | amount =>
    obtain ⟨y, stored, -⟩ := Cell.store_real_eq number
    rw [Table.stored, toCells, number]
    change (Cell.store .real (.real sub.amount)).Fits
    rw [stored]
    trivial

end Subscription

namespace Store

variable {s : Store} {sub : Subscription}

theorem insertSubscription_of_isNaN (noNumber : sub.amount.isNaN = true) :
    s.insertSubscription sub =
      .error (.fault "Insert subscription" (.notNull "subscriptions.amount")) := by
  unfold insertSubscription Table.checkRequired
  simp only [Subscription.missing?_stored, noNumber, if_true]
  rfl

theorem insertSubscription_of_not_hasUser (number : sub.amount.isNaN = false)
    (unknown : ¬s.HasUser sub.userId) :
    s.insertSubscription sub = .error (.fault "Insert subscription" .foreignKey) := by
  unfold insertSubscription Table.checkRequired checkUser
  simp only [Subscription.missing?_stored, number, unknown]
  rfl

theorem insertSubscription_eq (number : sub.amount.isNaN = false) (known : s.HasUser sub.userId) :
    s.insertSubscription sub = .ok (s.subscriptions.nextId,
      { s with subscriptions := s.subscriptions.insert (Table.stored sub.toCells) }) := by
  have accepted := sub.checkRequired_stored_eq_ok_iff.mpr number
  exact insertSubscription_eq_ok_iff.mpr ⟨⟨accepted, known⟩, rfl, rfl⟩

/-! ### Queries after a row was added -/

theorem subscription?_insert_self (s : Store) {cells : SubscriptionColumn → Cell}
    {v : Subscription} (read : Subscription.ofRow ⟨s.subscriptions.nextId, cells⟩ = .ok (.ok v)) :
    Store.subscription? { s with subscriptions := s.subscriptions.insert cells }
      s.subscriptions.nextId = .ok (some v) := by
  have found : (s.subscriptions.insert cells).find? s.subscriptions.nextId =
      some ⟨s.subscriptions.nextId, cells⟩ := by
    unfold Table.find? Table.insert
    rw [List.find?_append, List.find?_eq_none.mpr]
    · simp
    · intro r mem
      simp [Int.ne_of_lt (Table.lt_nextId mem)]
  unfold subscription?
  simp only [found, Option.mapM_some, read]
  rfl

theorem subscription?_insert_other (s : Store) {cells : SubscriptionColumn → Cell} {id : Int}
    (other : id ≠ s.subscriptions.nextId) :
    Store.subscription? { s with subscriptions := s.subscriptions.insert cells } id =
      s.subscription? id := by
  have found : (s.subscriptions.insert cells).find? id = s.subscriptions.find? id := by
    unfold Table.find? Table.insert
    rw [List.find?_append]
    simp [other.symm]
  unfold subscription?
  rw [found]

theorem ofUser_insert (s : Store) (cells : SubscriptionColumn → Cell) (user : Int) :
    Store.ofUser { s with subscriptions := s.subscriptions.insert cells } user =
      s.ofUser user ++
        if (cells .userId).IsInt user then [⟨s.subscriptions.nextId, cells⟩] else [] := by
  unfold ofUser Table.insert
  rw [List.filter_append]
  by_cases owner : (cells .userId).IsInt user <;> simp [owner]

/-- A row that is read comes last among what is found. -/
theorem readSubscriptions_concat {rows : List (Row SubscriptionColumn)} {r : Row SubscriptionColumn}
    {v : Subscription} (read : Subscription.ofRow r = .ok (.ok v)) :
    readSubscriptions (rows ++ [r]) = (readSubscriptions rows).map (· ++ [v]) := by
  unfold readSubscriptions
  rw [List.mapM_append, List.mapM_cons, read]
  cases rows.mapM Subscription.ofRow with
  | error e => rfl
  | ok readings =>
    refine congrArg Except.ok ?_
    exact List.filterMap_append

/-! ### Surviving storage -/

/-- A store has got a subscription under an id that was never given out before, and nothing else in it
has changed. -/
structure HasGot (s : Store) (v : Subscription) (s' : Store) : Prop where
  fresh : s.subscriptions.lastId < v.id ∧ ∀ r ∈ s.subscriptions.rows, r.id < v.id
  get : s'.subscription? v.id = .ok (some v)
  find : s'.findSubscriptions v.userId = (s.findSubscriptions v.userId).map (· ++ [v])
  getOthers : ∀ id ≠ v.id, s'.subscription? id = s.subscription? id
  findOthers : ∀ user ≠ v.userId, s'.findSubscriptions user = s.findSubscriptions user
  rows : ∃ cells, s'.subscriptions.rows = s.subscriptions.rows ++ [⟨v.id, cells⟩]
  users : s'.users = s.users
  policies : s'.policies = s.policies
  channels : s'.channels = s.channels
  logs : s'.logs = s.logs

/-- A row that is read is the only thing that is new. -/
theorem hasGot_insert (s : Store) {cells : SubscriptionColumn → Cell} {v : Subscription}
    (id : v.id = s.subscriptions.nextId) (owner : cells .userId = .integer v.userId)
    (read : Subscription.ofRow ⟨s.subscriptions.nextId, cells⟩ = .ok (.ok v)) :
    s.HasGot v { s with subscriptions := s.subscriptions.insert cells } where
  fresh := by
    rw [id]
    exact ⟨Int.lt_succ _, fun r => Table.lt_nextId⟩
  get := by
    rw [id]
    exact s.subscription?_insert_self read
  find := by
    have mine : (Cell.integer v.userId).IsInt v.userId := rfl
    unfold findSubscriptions
    rw [ofUser_insert, owner, if_pos mine]
    exact readSubscriptions_concat read
  getOthers other different := s.subscription?_insert_other (id ▸ different)
  findOthers user different := by
    have foreign : ¬(Cell.integer v.userId).IsInt user := fun same => different same.symm
    unfold findSubscriptions
    rw [ofUser_insert, owner, if_neg foreign, List.append_nil]
  rows := ⟨cells, by rw [id]; rfl⟩
  users := rfl
  policies := rfl
  channels := rfl
  logs := rfl

/-- A store whose integers fit has room for a subscription while there is an id left. -/
theorem Fits.insertSubscription (fits : s.Fits) (room : Width.IsInt64 s.subscriptions.nextId)
    (number : sub.amount.isNaN = false) (known : s.HasUser sub.userId) :
    Store.Fits { s with subscriptions := s.subscriptions.insert (Table.stored sub.toCells) } := by
  have user : Width.IsInt64 sub.userId := by
    obtain ⟨r, mem, same⟩ := known
    exact same ▸ (fits.users.rows r mem).id
  exact { fits with
    subscriptions :=
      ⟨room, Table.forall_insert fits.subscriptions.rows ⟨room, sub.fits_stored number user⟩⟩ }

/-- **Subscriptions survive storage.** Whatever a store holds, a subscription of one of its users whose
amount is a number is taken under an id that was never given out. Read by this id, or last among those
of its user, it is what it was but for the id and an amount that equals the one given; nothing else in
the store reads differently, and so it is when the store was closed and opened again. The queries
succeed in a store whose rows are in order, and the text of a store can be read when its integers fit
in 64 bits. A subscription whose amount is no number, or whose user does not exist, is refused, and
the store is left as it was. -/
theorem subscriptions_survive_storage (s : Store) (sub : Subscription) :
    (sub.amount.isNaN = false → s.HasUser sub.userId →
      ∃ id amount s', s.insertSubscription sub = .ok (id, s') ∧ (amount == sub.amount) = true ∧
        s.HasGot { sub with id, amount } s' ∧ s.HasGot { sub with id, amount } s'.reopened ∧
        (s.Tidy → ∃ subs, s.findSubscriptions sub.userId = .ok subs) ∧
        (s.Fits → Width.IsInt64 id → ofText? s'.toText = some s')) ∧
    (sub.amount.isNaN = true ∨ ¬s.HasUser sub.userId →
      (∃ cause, s.insertSubscription sub = .error (.fault "Insert subscription" cause)) ∧
        ∀ desk, (Operation.insertSubscription sub).perform desk s = s) := by
  constructor
  · intro number known
    obtain ⟨amount, stored, equals⟩ := Cell.store_real_eq number
    have cell : Table.stored sub.toCells .amount = .real amount := by
      rw [Table.stored, Subscription.toCells, number]
      exact stored
    have inserted := insertSubscription_eq number known
    have got := s.hasGot_insert (v := { sub with id := s.subscriptions.nextId, amount }) rfl rfl
      (sub.ofRow_stored _ cell)
    refine ⟨_, amount, _, inserted, equals, got, ?_, ?_, ?_⟩
    · rwa [reopened_eq]
    · intro tidy
      refine exists_readSubscriptions_iff.mpr fun r mem => Subscription.exists_ofRow_iff.mpr ?_
      exact (tidy.subscriptions r (List.mem_filter.mp mem).1).legible
    · intro fits room
      exact ofText?_toText (fits.insertSubscription room number known)
  · intro refused
    have error : ∃ cause, s.insertSubscription sub = .error (.fault "Insert subscription" cause) := by
      cases number : sub.amount.isNaN with
      | true => exact ⟨_, insertSubscription_of_isNaN number⟩
      | false =>
        have unknown := refused.resolve_left (by rw [number]; exact Bool.false_ne_true)
        exact ⟨_, insertSubscription_of_not_hasUser number unknown⟩
    refine ⟨error, fun desk => ?_⟩
    obtain ⟨cause, error⟩ := error
    rw [Operation.perform, error]
    rfl

namespace Sample

/-- A subscription with a whole amount, on a day that takes more than four digits of a year. -/
def distant : Subscription :=
  ⟨0, 1, "Lease", .recurring, some .interval, some 4294967295, some .year, none, none, none,
    Date.ofYmd? 12024 2 29, .ofBits 0xC028000000000000, "EUR", true, some false, some 10, none, none,
    some "", none⟩

end Sample

/-- A whole amount is found again. -/
theorem subscriptions_survive_storage_sample : ∃ id amount s',
    Sample.filled.insertSubscription Sample.distant = .ok (id, s') ∧
      (amount == Sample.distant.amount) = true ∧
      s'.subscription? id = .ok (some { Sample.distant with id, amount }) ∧
      s'.reopened.subscription? id = .ok (some { Sample.distant with id, amount }) := by
  have number : Sample.distant.amount.isNaN = false := by rfl
  have known : Sample.filled.HasUser Sample.distant.userId := by decide +kernel
  obtain ⟨id, amount, s', inserted, equals, got, again, -⟩ :=
    (subscriptions_survive_storage Sample.filled Sample.distant).1 number known
  exact ⟨id, amount, s', inserted, equals, got.get, again.get⟩

end Store

end Reminders
