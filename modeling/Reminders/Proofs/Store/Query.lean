import Reminders.Proofs.Lists
import Reminders.Proofs.Store.Log

/-!
What queries find.

A query fails as a whole when a row it reads holds a value of the wrong kind, and leaves out rows
whose words it does not know. When it succeeds, it finds the records of the rows that satisfy its
condition, in the order of their ids.

* `Store.HasChannel`, `Store.HasRecurring`: the records that a run of a user is about.
* `Store.mem_findChannels_iff`, `Store.findChannels_ascending`
* `Store.mem_findNotifiable_iff`, `Store.findNotifiable_ascending`
-/

namespace Reminders

namespace Cell

theorem readInt_eq_ok_iff {place : Place} {c : Cell} {n : Int} :
    readInt place c = .ok n ↔ c = .integer n := by
  cases c <;> simp [readInt, refuse]

theorem readText_eq_ok_iff {place : Place} {c : Cell} {s : String} :
    readText place c = .ok s ↔ c = .text s := by
  cases c <;> simp [readText, refuse]

/-- A cell that holds nothing reads as no value. -/
theorem eq_none_of_readOption_eq_ok {read : Cell → Except TableFault α} {c : Cell} {o : Option α}
    (h : readOption read c = .ok o) (isNull : c.IsNull) : o = none := by
  cases c with
  | null => exact (Except.ok.inj h).symm
  | integer | real | text => exact isNull.elim

end Cell

namespace Table

theorem nodup_ids (t : Table κ) : (t.rows.map (·.id)).Nodup :=
  List.pairwise_map.mpr (t.ascending.imp Int.ne_of_lt)

/-- A row is known by its id. -/
theorem eq_of_id_eq {t : Table κ} {a b : Row κ} (ha : a ∈ t.rows) (hb : b ∈ t.rows)
    (same : a.id = b.id) : a = b :=
  List.inj_on_of_nodup_map t.nodup_ids ha hb same

end Table

namespace Store

theorem doing_eq_ok_iff {what : String} {x : Except TableFault α} {a : α} :
    doing what x = .ok a ↔ x = .ok a := by
  cases x with
  | ok b => exact ⟨fun h => congrArg _ (Except.ok.inj h), fun h => congrArg _ (Except.ok.inj h)⟩
  | error e => exact ⟨nofun, nofun⟩

end Store

/-! ### Channels -/

theorem Channel.ofRow_eq_ok_some {r : Row ChannelColumn} {c : Channel}
    (h : Channel.ofRow r = .ok (some c)) :
    c.id = r.id ∧ r.cell .userId = .integer c.userId ∧
      ∃ tag, r.cell .channelType = .text tag ∧ ChannelType.ofTag? tag = some c.type := by
  unfold Channel.ofRow at h
  obtain ⟨userId, readUser, h⟩ := except_bind_eq_ok_iff.mp h
  obtain ⟨tag, readType, h⟩ := except_bind_eq_ok_iff.mp h
  obtain ⟨config, -, h⟩ := except_bind_eq_ok_iff.mp h
  obtain ⟨template, -, h⟩ := except_bind_eq_ok_iff.mp h
  obtain ⟨type, known, rfl⟩ := Option.map_eq_some_iff.mp (Except.ok.inj h)
  exact ⟨rfl, Cell.readInt_eq_ok_iff.mp readUser, tag, Cell.readText_eq_ok_iff.mp readType, known⟩

/-- A row whose tag is known is a channel of that type, once it is read. -/
theorem Channel.exists_of_ofRow_eq_ok {r : Row ChannelColumn} {o : Option Channel}
    (h : Channel.ofRow r = .ok o) {tag : String} {type : ChannelType}
    (stored : r.cell .channelType = .text tag) (known : ChannelType.ofTag? tag = some type) :
    ∃ c, o = some c ∧ c.type = type := by
  unfold Channel.ofRow at h
  obtain ⟨userId, -, h⟩ := except_bind_eq_ok_iff.mp h
  obtain ⟨tag', readType, h⟩ := except_bind_eq_ok_iff.mp h
  obtain ⟨config, -, h⟩ := except_bind_eq_ok_iff.mp h
  obtain ⟨template, -, h⟩ := except_bind_eq_ok_iff.mp h
  rw [Cell.readText_eq_ok_iff, stored, Cell.text.injEq] at readType
  rw [← readType, known] at h
  exact ⟨_, (Except.ok.inj h).symm, rfl⟩

namespace Store

/-- The user has this channel, which is enabled and of a known type. -/
def HasChannel (s : Store) (user : Int) (c : Channel) : Prop :=
  ∃ r ∈ s.channels.rows,
    (r.cell .enabled).IsInt 1 ∧ (r.cell .userId).IsInt user ∧ Channel.ofRow r = .ok (some c)

/-- A channel is known by its id. -/
theorem HasChannel.eq_of_id_eq {s : Store} {user : Int} {c c' : Channel} (h : s.HasChannel user c)
    (h' : s.HasChannel user c') (same : c.id = c'.id) : c = c' := by
  obtain ⟨r, mem, -, -, read⟩ := h
  obtain ⟨r', mem', -, -, read'⟩ := h'
  rw [(Channel.ofRow_eq_ok_some read).1, (Channel.ofRow_eq_ok_some read').1] at same
  cases Table.eq_of_id_eq mem mem' same
  exact Option.some.inj (Except.ok.inj (read.symm.trans read'))

/-- The channels that are found are those of the rows that are read. -/
theorem findChannels_eq {s : Store} {user : Int} {channels : List Channel}
    (found : s.findChannels user = .ok channels) :
    channels = (s.enabledChannels.filter fun r => (r.cell .userId).IsInt user).filterMap
      fun r => (Channel.ofRow r).toOption.bind id := by
  obtain ⟨readings, read, h⟩ := except_bind_eq_ok_iff.mp found
  cases h
  exact filterMap_of_mapM_eq_ok (doing_eq_ok_iff.mp read)

theorem mem_findChannels_iff {s : Store} {user : Int} {channels : List Channel}
    (found : s.findChannels user = .ok channels) {c : Channel} :
    c ∈ channels ↔ s.HasChannel user c := by
  simp only [findChannels_eq found, enabledChannels, List.mem_filterMap, List.mem_filter,
    toOption_bind_id_eq_some, decide_eq_true_eq, HasChannel, and_assoc]

theorem findChannels_ascending {s : Store} {user : Int} {channels : List Channel}
    (found : s.findChannels user = .ok channels) : channels.Pairwise (·.id < ·.id) := by
  rw [findChannels_eq found, enabledChannels, List.pairwise_filterMap]
  refine ((s.channels.ascending.filter _).filter _).imp fun {a b} less c read c' read' => ?_
  rw [(Channel.ofRow_eq_ok_some (toOption_bind_id_eq_some.mp read)).1,
    (Channel.ofRow_eq_ok_some (toOption_bind_id_eq_some.mp read')).1]
  exact less

end Store

/-! ### Subscriptions -/

theorem BillingType.ofTag?_eq_recurring_iff {tag : String} :
    ofTag? tag = some .recurring ↔ tag = BillingType.recurring.tag := by
  refine ⟨?_, fun h => by rw [h]; rfl⟩
  intro h
  unfold ofTag? at h
  split at h
  · rfl
  all_goals cases h

namespace Subscription

theorem ofRow_eq_ok_ok {r : Row SubscriptionColumn} {s : Subscription}
    (h : Subscription.ofRow r = .ok (.ok s)) :
    s.id = r.id ∧ r.cell .userId = .integer s.userId ∧
      (∃ tag, r.cell .billingType = .text tag ∧ BillingType.ofTag? tag = some s.billingType) ∧
      (s.nextOccurrence ≠ none → ¬(r.cell .nextOccurrence).IsNull) := by
  unfold Subscription.ofRow at h
  obtain ⟨tag, readBilling, h⟩ := except_bind_eq_ok_iff.mp h
  obtain ⟨date, readDate, h⟩ := except_bind_eq_ok_iff.mp h
  split at h
  · cases h
  rename_i billing known
  split at h
  · cases h
  rename_i next parsed
  obtain ⟨userId, readUser, h⟩ := except_bind_eq_ok_iff.mp h
  iterate 16 obtain ⟨_, -, h⟩ := except_bind_eq_ok_iff.mp h
  cases h
  refine ⟨rfl, Cell.readInt_eq_ok_iff.mp readUser,
    ⟨tag, Cell.readText_eq_ok_iff.mp readBilling, known⟩, fun dated isNull => dated ?_⟩
  rw [Cell.eq_none_of_readOption_eq_ok readDate isNull] at parsed
  exact (Except.ok.inj parsed).symm

end Subscription

namespace Store

/-- The user has this recurring subscription, which is enabled. -/
def HasRecurring (s : Store) (user : Int) (sub : Subscription) : Prop :=
  ∃ r ∈ s.subscriptions.rows, (r.cell .userId).IsInt user ∧ (r.cell .enabled).IsInt 1 ∧
    Subscription.ofRow r = .ok (.ok sub) ∧ sub.IsRecurring

/-- A subscription is known by its id. -/
theorem HasRecurring.eq_of_id_eq {s : Store} {user : Int} {sub sub' : Subscription}
    (h : s.HasRecurring user sub) (h' : s.HasRecurring user sub') (same : sub.id = sub'.id) :
    sub = sub' := by
  obtain ⟨r, mem, -, -, read, -⟩ := h
  obtain ⟨r', mem', -, -, read', -⟩ := h'
  rw [(Subscription.ofRow_eq_ok_ok read).1, (Subscription.ofRow_eq_ok_ok read').1] at same
  cases Table.eq_of_id_eq mem mem' same
  exact Except.ok.inj (Except.ok.inj (read.symm.trans read'))

/-- The subscriptions that are found are those of the rows that are read. -/
theorem readSubscriptions_eq {rows : List (Row SubscriptionColumn)} {subs : List Subscription}
    (found : readSubscriptions rows = .ok subs) :
    subs = rows.filterMap fun r => (Subscription.ofRow r).toOption.bind Except.toOption := by
  obtain ⟨readings, read, h⟩ := except_bind_eq_ok_iff.mp found
  cases h
  exact filterMap_of_mapM_eq_ok (doing_eq_ok_iff.mp read)

/-- Reading succeeds when each row can be read. -/
theorem exists_readSubscriptions_iff {rows : List (Row SubscriptionColumn)} :
    (∃ subs, readSubscriptions rows = .ok subs) ↔
      ∀ r ∈ rows, ∃ x, Subscription.ofRow r = .ok x := by
  constructor
  · rintro ⟨subs, found⟩ r mem
    obtain ⟨readings, read, -⟩ := except_bind_eq_ok_iff.mp found
    exact exists_of_mapM_eq_ok (doing_eq_ok_iff.mp read) mem
  · intro all
    obtain ⟨readings, read⟩ := exists_mapM_eq_ok all
    exact ⟨_, except_bind_eq_ok_iff.mpr ⟨readings, doing_eq_ok_iff.mpr read, rfl⟩⟩

theorem mem_readSubscriptions_iff {rows : List (Row SubscriptionColumn)}
    {subs : List Subscription} (found : readSubscriptions rows = .ok subs) {sub : Subscription} :
    sub ∈ subs ↔ ∃ r ∈ rows, Subscription.ofRow r = .ok (.ok sub) := by
  simp only [readSubscriptions_eq found, List.mem_filterMap, toOption_bind_toOption_eq_some]

theorem readSubscriptions_ascending {rows : List (Row SubscriptionColumn)}
    {subs : List Subscription} (found : readSubscriptions rows = .ok subs)
    (ascending : rows.Pairwise (·.id < ·.id)) : subs.Pairwise (·.id < ·.id) := by
  rw [readSubscriptions_eq found, List.pairwise_filterMap]
  refine ascending.imp fun {a b} less sub read sub' read' => ?_
  rw [(Subscription.ofRow_eq_ok_ok (toOption_bind_toOption_eq_some.mp read)).1,
    (Subscription.ofRow_eq_ok_ok (toOption_bind_toOption_eq_some.mp read')).1]
  exact less

/-- Of the subscriptions that have a date, the query finds those that are enabled and recurring. -/
theorem mem_findNotifiable_iff {s : Store} {user : Int} {subs : List Subscription}
    (found : s.findNotifiable user = .ok subs) {sub : Subscription}
    (dated : sub.nextOccurrence ≠ none) : sub ∈ subs ↔ s.HasRecurring user sub := by
  rw [mem_readSubscriptions_iff found]
  simp only [ofUser, List.mem_filter, Bool.and_eq_true, Bool.not_eq_true', decide_eq_true_eq,
    decide_eq_false_iff_not]
  constructor
  · rintro ⟨r, ⟨⟨mem, owner⟩, ⟨enabled, recurring⟩, -⟩, read⟩
    obtain ⟨-, -, ⟨tag, stored, known⟩, -⟩ := Subscription.ofRow_eq_ok_ok read
    refine ⟨r, mem, owner, enabled, read, ?_⟩
    rw [StoredRecurring, Cell.isText_iff, stored, Cell.text.injEq,
      ← BillingType.ofTag?_eq_recurring_iff, known] at recurring
    exact Option.some.inj recurring
  · rintro ⟨r, mem, owner, enabled, read, recurring⟩
    obtain ⟨-, -, ⟨tag, stored, known⟩, notNull⟩ := Subscription.ofRow_eq_ok_ok read
    refine ⟨r, ⟨⟨mem, owner⟩, ⟨enabled, ?_⟩, notNull dated⟩, read⟩
    rw [StoredRecurring, Cell.isText_iff, stored, Cell.text.injEq,
      ← BillingType.ofTag?_eq_recurring_iff, known, ← recurring]

theorem findNotifiable_ascending {s : Store} {user : Int} {subs : List Subscription}
    (found : s.findNotifiable user = .ok subs) : subs.Pairwise (·.id < ·.id) :=
  readSubscriptions_ascending found ((s.subscriptions.ascending.filter _).filter _)

end Store

end Reminders
