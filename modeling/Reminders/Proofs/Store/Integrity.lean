import Reminders.Proofs.Store.Faithful
import Reminders.Proofs.Store.Writes
import Reminders.Store.Statement

/-!
The integrity of the store.

The tables fit together: what belongs to a user belongs to one that exists, addresses are different,
and no reminder was sent twice. Every statement keeps this so, because one that would not is refused,
and ids are given out in ascending order whatever is removed in between.

* `Statement.refused_iff`: what is refused, and nothing else.
* `Store.Sound.run`: every statement keeps the tables sound.
* `Statement.lastId_le_of_run`, `Statement.ids_of_issues`: the ids that are given out.
* `Store.loses_deleteUser`: what goes with a user.
-/

namespace Reminders

open Store

namespace Table

/-- A table has one row of an id at most. -/
theorem countP_id_le_one (t : Table κ) (id : Int) :
    (t.rows.countP fun r => decide (r.id = id)) ≤ 1 := by
  have once := List.nodup_iff_count_le_one.mp t.nodup_ids id
  rw [List.count, List.countP_map] at once
  refine Nat.le_trans (Nat.le_of_eq ?_) once
  apply List.countP_congr
  intro r _
  simp

/-- What a change of one column leaves in another one. -/
theorem forall_set [DecidableEq κ] {t : Table κ} {id : Int} {k j : κ} {c : Cell} {P : Cell → Prop}
    (all : ∀ r ∈ t.rows, P (r.cell j)) (other : j ≠ k) : ∀ r ∈ (t.set id k c).rows, P (r.cell j) :=
  forall_modify (P := fun r => P (r.cell j)) all fun r holds => by
    change P (if j = k then c else r.cell j)
    rwa [if_neg other]

end Table

/-! ### What statements do -/

namespace Statement

/-- What a statement does that is not refused: the id that it gives back, and the tables after it. -/
inductive Effect (s : Store) : Statement → Option Int → Store → Prop
  | createUser {email} (unused : ∀ r ∈ s.users.rows, r.cell .email ≠ .text email) :
      Effect s (.createUser email) (some s.users.nextId)
        { s with users := s.users.insert fun | .email => .text email }
  | deleteUser (user) : Effect s (.deleteUser user) none (s.deleteUser user)
  | insertSubscription {sub : Subscription} (known : s.HasUser sub.userId) :
      Effect s (.insertSubscription sub) (some s.subscriptions.nextId)
        { s with subscriptions := s.subscriptions.insert (Table.stored sub.toCells) }
  | updateNextOccurrence (id date) :
      Effect s (.updateNextOccurrence id date) none (s.updateNextOccurrence id date)
  | insertChannel {user type config template} (known : s.HasUser user) :
      Effect s (.insertChannel user type config template) (some s.channels.nextId)
        { s with channels := s.channels.insert (Channel.toCells user type config template) }
  | setChannelEnabled (id enabled) :
      Effect s (.setChannelEnabled id enabled) none (s.setChannelEnabled id enabled)
  | changePolicy (policy : Policy) :
      Effect s (.upsertPolicy policy) none
        { s with policies := s.policies.modify policy.userId fun _ => policy.toCells }
  | addPolicy {policy : Policy} (known : s.HasUser policy.userId) :
      Effect s (.upsertPolicy policy) none
        { s with policies := s.policies.insertAt policy.userId policy.toCells }
  | insertLog {entry : LogEntry} (first : ¬(entry.status = .sent ∧ s.WasSent entry.key)) :
      Effect s (.insertLog entry) none (s.logged entry)

/-- A statement that is carried out has its effect. -/
theorem effect_of_run {s s' : Store} {statement : Statement} {reply : Option Int}
    (ran : statement.run s = .ok (reply, s')) : Effect s statement reply s' := by
  cases statement with
  | createUser email =>
    obtain ⟨⟨id, after⟩, created, same⟩ := except_map_eq_ok_iff.mp ran
    cases same
    obtain ⟨unused, rfl, rfl⟩ := createUser_eq_ok_iff.mp created
    exact .createUser unused
  | deleteUser user =>
    cases ran
    exact .deleteUser user
  | insertSubscription sub =>
    obtain ⟨⟨id, after⟩, inserted, same⟩ := except_map_eq_ok_iff.mp ran
    cases same
    obtain ⟨⟨-, known⟩, rfl, rfl⟩ := insertSubscription_eq_ok_iff.mp inserted
    exact .insertSubscription known
  | updateNextOccurrence id date =>
    cases ran
    exact .updateNextOccurrence id date
  | insertChannel user type config template =>
    obtain ⟨⟨id, after⟩, inserted, same⟩ := except_map_eq_ok_iff.mp ran
    cases same
    obtain ⟨known, rfl, rfl⟩ := insertChannel_eq_ok_iff.mp inserted
    exact .insertChannel known
  | setChannelEnabled id enabled =>
    cases ran
    exact .setChannelEnabled id enabled
  | upsertPolicy policy =>
    obtain ⟨after, written, same⟩ := except_map_eq_ok_iff.mp ran
    cases same
    rcases upsertPolicy_eq_ok_iff.mp written with ⟨-, rfl⟩ | ⟨-, known, rfl⟩
    · exact .changePolicy policy
    · exact .addPolicy known
  | insertLog entry =>
    obtain ⟨after, written, same⟩ := except_map_eq_ok_iff.mp ran
    cases same
    obtain ⟨first, rfl⟩ := insertLog_eq_ok_iff.mp written
    exact .insertLog first

end Statement

namespace Store

variable {s s' : Store} {id user : Int}

/-! ### Soundness -/

/-- The cell names a user that there is. -/
def HasOwner (s : Store) (c : Cell) : Prop := ∃ user, c.IsInt user ∧ s.HasUser user

/-- The tables fit together. -/
structure Sound (s : Store) : Prop where
  /-- Every subscription belongs to a user. -/
  subscriptions : ∀ r ∈ s.subscriptions.rows, s.HasOwner (r.cell .userId)
  /-- Every channel belongs to a user. -/
  channels : ∀ r ∈ s.channels.rows, s.HasOwner (r.cell .userId)
  /-- Every policy belongs to a user. -/
  policies : ∀ r ∈ s.policies.rows, s.HasUser r.id
  /-- No user has two policies. -/
  onePolicy : ∀ user, (s.policies.rows.countP fun r => decide (r.id = user)) ≤ 1
  /-- Every user has an address. -/
  addresses : ∀ r ∈ s.users.rows, ∃ email, r.cell .email = .text email
  /-- No two users have the same address. -/
  distinct : (s.users.rows.map (·.cell .email)).Nodup
  /-- No reminder was sent twice. -/
  sentOnce : ∀ subscription type date,
    (s.logs.rows.countP fun r => decide (SentRow r subscription type date)) ≤ 1

theorem HasUser.mono (known : s.HasUser user) (more : s.users.rows ⊆ s'.users.rows) :
    s'.HasUser user := by
  obtain ⟨r, mem, same⟩ := known
  exact ⟨r, more mem, same⟩

theorem HasOwner.mono {c : Cell} (owned : s.HasOwner c) (more : s.users.rows ⊆ s'.users.rows) :
    s'.HasOwner c := by
  obtain ⟨user, holds, known⟩ := owned
  exact ⟨user, holds, known.mono more⟩

/-- Other users stay when one is removed. -/
theorem HasUser.deleteUser {other : Int} (known : s.HasUser other) (different : other ≠ user) :
    (s.deleteUser user).HasUser other := by
  obtain ⟨r, mem, rfl⟩ := known
  refine ⟨r, List.mem_filter.mpr ⟨mem, ?_⟩, rfl⟩
  simp [different]

namespace Sound

theorem empty : Sound .empty where
  subscriptions _ mem := absurd mem List.not_mem_nil
  channels _ mem := absurd mem List.not_mem_nil
  policies _ mem := absurd mem List.not_mem_nil
  onePolicy _ := Nat.zero_le 1
  addresses _ mem := absurd mem List.not_mem_nil
  distinct := List.nodup_nil
  sentOnce _ _ _ := Nat.zero_le 1

theorem createUser {email : String} (sound : s.Sound)
    (unused : ∀ r ∈ s.users.rows, r.cell .email ≠ .text email) :
    Sound { s with users := s.users.insert fun | .email => .text email } := by
  have more := List.subset_append_left s.users.rows
    [⟨s.users.nextId, fun | UserColumn.email => Cell.text email⟩]
  exact
    { sound with
      subscriptions := fun r mem => (sound.subscriptions r mem).mono more
      channels := fun r mem => (sound.channels r mem).mono more
      policies := fun r mem => (sound.policies r mem).mono more
      addresses := Table.forall_insert sound.addresses ⟨email, rfl⟩
      distinct := by
        rw [Table.insert, List.map_append, List.nodup_append']
        refine ⟨sound.distinct, List.nodup_singleton _, ?_⟩
        rw [List.map_singleton, List.disjoint_singleton]
        intro taken
        obtain ⟨r, mem, same⟩ := List.mem_map.mp taken
        exact unused r mem same }

/-- What belonged to the user is gone, so the rest belongs to others. -/
theorem deleteUser (sound : s.Sound) (user : Int) : (s.deleteUser user).Sound where
  subscriptions r mem := by
    obtain ⟨mem, kept⟩ := List.mem_filter.mp mem
    obtain ⟨other, holds, known⟩ := sound.subscriptions r mem
    refine ⟨other, holds, known.deleteUser ?_⟩
    rintro rfl
    simp [holds] at kept
  channels r mem := by
    obtain ⟨mem, kept⟩ := List.mem_filter.mp mem
    obtain ⟨other, holds, known⟩ := sound.channels r mem
    refine ⟨other, holds, known.deleteUser ?_⟩
    rintro rfl
    simp [holds] at kept
  policies r mem := by
    obtain ⟨mem, kept⟩ := List.mem_filter.mp mem
    refine (sound.policies r mem).deleteUser ?_
    rintro rfl
    simp at kept
  onePolicy := Table.countP_id_le_one _
  addresses r mem := sound.addresses r (List.mem_filter.mp mem).1
  distinct := sound.distinct.sublist (List.filter_sublist.map _)
  sentOnce := sound.sentOnce

theorem insertSubscription {sub : Subscription} (sound : s.Sound) (known : s.HasUser sub.userId) :
    Sound { s with subscriptions := s.subscriptions.insert (Table.stored sub.toCells) } :=
  { sound with
    subscriptions := Table.forall_insert sound.subscriptions ⟨sub.userId, rfl, known⟩ }

theorem updateNextOccurrence (sound : s.Sound) (id : Int) (d : Date) :
    (s.updateNextOccurrence id d).Sound :=
  { sound with subscriptions := Table.forall_set sound.subscriptions nofun }

theorem insertChannel {type : ChannelType} {config : Json} {template : Option String}
    (sound : s.Sound) (known : s.HasUser user) :
    Sound { s with channels := s.channels.insert (Channel.toCells user type config template) } :=
  { sound with channels := Table.forall_insert sound.channels ⟨user, rfl, known⟩ }

theorem setChannelEnabled (sound : s.Sound) (id : Int) (enabled : Bool) :
    (s.setChannelEnabled id enabled).Sound :=
  { sound with channels := Table.forall_set sound.channels nofun }

theorem changePolicy (sound : s.Sound) (p : Policy) :
    Sound { s with policies := s.policies.modify p.userId fun _ => p.toCells } :=
  { sound with
    policies := Table.forall_modify sound.policies fun _ owned => owned
    onePolicy := Table.countP_id_le_one _ }

theorem addPolicy {p : Policy} (sound : s.Sound) (known : s.HasUser p.userId) :
    Sound { s with policies := s.policies.insertAt p.userId p.toCells } := by
  refine { sound with policies := fun r mem => ?_, onePolicy := Table.countP_id_le_one _ }
  rcases Table.mem_insertRow mem with rfl | mem
  · exact known
  · exact sound.policies r mem

/-- An entry that says that a reminder was sent is the first one that does. -/
theorem insertLog {e : LogEntry} (sound : s.Sound)
    (first : ¬(e.status = .sent ∧ s.WasSent e.key)) : (s.logged e).Sound := by
  refine { sound with sentOnce := fun subscription type date => ?_ }
  rw [logged_rows, List.countP_append, List.countP_singleton]
  split
  · rename_i sent
    obtain ⟨rfl, rfl, rfl, status⟩ := of_decide_eq_true sent
    have none : (s.logs.rows.countP fun r =>
        decide (SentRow r e.subscriptionId e.channelType.tag e.notifyDate.toText)) = 0 := by
      rw [List.countP_eq_zero]
      intro r mem before
      exact first ⟨DeliveryStatus.tag_inj status, r, mem, of_decide_eq_true before⟩
    exact Nat.le_of_eq (congrArg (· + 1) none)
  · exact sound.sentOnce subscription type date

/-- A user with a policy is one that there is. -/
theorem hasUser_of_policy (sound : s.Sound) (found : s.policies.find? user ≠ none) :
    s.HasUser user := by
  obtain ⟨r, found⟩ := Option.ne_none_iff_exists'.mp found
  have same : r.id = user := by simpa using List.find?_some found
  exact same ▸ sound.policies r (List.mem_of_find?_eq_some found)

/-- **Every statement keeps the tables sound.** -/
theorem run {statement : Statement} {reply : Option Int} (sound : s.Sound)
    (ran : statement.run s = .ok (reply, s')) : s'.Sound := by
  cases Statement.effect_of_run ran with
  | createUser unused => exact sound.createUser unused
  | deleteUser user => exact sound.deleteUser user
  | insertSubscription known => exact sound.insertSubscription known
  | updateNextOccurrence id date => exact sound.updateNextOccurrence id date
  | insertChannel known => exact sound.insertChannel known
  | setChannelEnabled id enabled => exact sound.setChannelEnabled id enabled
  | changePolicy policy => exact sound.changePolicy policy
  | addPolicy known => exact sound.addPolicy known
  | insertLog first => exact sound.insertLog first

end Sound

end Store

/-! ### What is refused -/

namespace Statement

variable {s s' : Store} {statement : Statement} {table : StoredTable} {id : Int}

/-- The statement would break a rule of the tables. -/
def Breaks (s : Store) : Statement → Prop
  | .createUser email => ∃ r ∈ s.users.rows, r.cell .email = .text email
  | .insertSubscription sub => sub.amount.isNaN = true ∨ ¬s.HasUser sub.userId
  | .insertChannel user _ _ _ => ¬s.HasUser user
  | .upsertPolicy policy => ¬s.HasUser policy.userId
  | .insertLog entry => entry.status = .sent ∧ s.WasSent entry.key
  | _ => False

/-- **A statement is refused when it would break a rule**, and otherwise not. -/
theorem refused_iff (sound : s.Sound) :
    (∃ e, statement.run s = .error e) ↔ statement.Breaks s := by
  cases statement with
  | createUser email => simp [run, Breaks, exists_map_eq_error_iff, createUser_eq_ok_iff]
  | insertSubscription sub =>
    simp [run, Breaks, exists_map_eq_error_iff, insertSubscription_eq_ok_iff,
      Subscription.checkRequired_stored_eq_ok_iff, imp_iff_not_or]
  | insertChannel user type config template =>
    simp [run, Breaks, exists_map_eq_error_iff, insertChannel_eq_ok_iff]
  | upsertPolicy policy =>
    refine exists_map_eq_error_iff.trans (not_congr ⟨?_, ?_⟩)
    · rintro ⟨after, written⟩
      rcases upsertPolicy_eq_ok_iff.mp written with ⟨found, -⟩ | ⟨-, known, -⟩
      · exact sound.hasUser_of_policy found
      · exact known
    · intro known
      by_cases absent : s.policies.find? policy.userId = none
      · exact ⟨_, upsertPolicy_eq_ok_iff.mpr (.inr ⟨absent, known, rfl⟩)⟩
      · exact ⟨_, upsertPolicy_eq_ok_iff.mpr (.inl ⟨absent, rfl⟩)⟩
  | insertLog entry => simp [run, Breaks, exists_map_eq_error_iff, insertLog_eq_ok_iff]
  | deleteUser | updateNextOccurrence | setChannelEnabled => exact ⟨nofun, nofun⟩

end Statement

/-! ### Ids -/

theorem Table.le_lastId_of_mem_ids {t : Table κ} {id : Int} (mem : id ∈ t.rows.map (·.id)) :
    id ≤ t.lastId := by
  obtain ⟨r, row, rfl⟩ := List.mem_map.mp mem
  exact t.le_lastId r row

theorem Table.ids_insert (t : Table κ) (cells : κ → Cell) :
    (t.insert cells).rows.map (·.id) = t.rows.map (·.id) ++ [t.nextId] := List.map_append

theorem Table.lastId_le_insert (t : Table κ) (cells : κ → Cell) :
    t.lastId ≤ (t.insert cells).lastId := Int.le_of_lt (Int.lt_succ t.lastId)

namespace Store

/-- The ids of the rows of a table. -/
def ids (s : Store) : StoredTable → List Int
  | .users => s.users.rows.map (·.id)
  | .subscriptions => s.subscriptions.rows.map (·.id)
  | .policies => s.policies.rows.map (·.id)
  | .channels => s.channels.rows.map (·.id)
  | .logs => s.logs.rows.map (·.id)

/-- The largest id that a row of a table ever had. -/
def lastId (s : Store) : StoredTable → Int
  | .users => s.users.lastId
  | .subscriptions => s.subscriptions.lastId
  | .policies => s.policies.lastId
  | .channels => s.channels.lastId
  | .logs => s.logs.lastId

variable {s s' : Store} {table : StoredTable} {id user : Int}

theorem le_lastId (mem : id ∈ s.ids table) : id ≤ s.lastId table := by
  cases table <;> exact Table.le_lastId_of_mem_ids mem

end Store

namespace Statement

variable {s s' : Store} {statement : Statement} {reply : Option Int} {table : StoredTable} {id : Int}

/-- **No table forgets an id** that it gave out. -/
theorem lastId_le_of_run (ran : statement.run s = .ok (reply, s')) (table : StoredTable) :
    s.lastId table ≤ s'.lastId table := by
  cases effect_of_run ran with
  | createUser _ =>
    cases table with
    | users => exact s.users.lastId_le_insert _
    | _ => exact Int.le_refl _
  | insertSubscription _ =>
    cases table with
    | subscriptions => exact s.subscriptions.lastId_le_insert _
    | _ => exact Int.le_refl _
  | insertChannel _ =>
    cases table with
    | channels => exact s.channels.lastId_le_insert _
    | _ => exact Int.le_refl _
  | addPolicy _ =>
    cases table with
    | policies => exact Int.le_max_left _ _
    | _ => exact Int.le_refl _
  | insertLog _ =>
    cases table with
    | logs => exact s.logs.lastId_le_insert _
    | _ => exact Int.le_refl _
  | deleteUser | updateNextOccurrence | setChannelEnabled | changePolicy =>
    cases table <;> exact Int.le_refl _

/-- **The id that is given back** is the one after the largest that a row of the table ever had, and
it is the id of the one row that is new. -/
theorem ids_of_issues (issued : statement.issues = some table)
    (ran : statement.run s = .ok (some id, s')) :
    id = s.lastId table + 1 ∧ s'.ids table = s.ids table ++ [id] := by
  cases effect_of_run ran with
  | createUser _ =>
    cases issued
    exact ⟨rfl, s.users.ids_insert _⟩
  | insertSubscription _ =>
    cases issued
    exact ⟨rfl, s.subscriptions.ids_insert _⟩
  | insertChannel _ =>
    cases issued
    exact ⟨rfl, s.channels.ids_insert _⟩

end Statement

/-! ### Removing a user -/

namespace Store

/-- The second store lacks a user of the first with all that belonged to it, and nothing else. The
delivery log is the same. -/
structure Loses (user : Int) (s s' : Store) : Prop where
  users : ∀ r, r ∈ s'.users.rows ↔ r ∈ s.users.rows ∧ r.id ≠ user
  subscriptions : ∀ r, r ∈ s'.subscriptions.rows ↔
    r ∈ s.subscriptions.rows ∧ ¬(r.cell .userId).IsInt user
  channels : ∀ r, r ∈ s'.channels.rows ↔ r ∈ s.channels.rows ∧ ¬(r.cell .userId).IsInt user
  policies : ∀ r, r ∈ s'.policies.rows ↔ r ∈ s.policies.rows ∧ r.id ≠ user
  logs : s'.logs = s.logs

theorem loses_deleteUser (s : Store) (user : Int) : Loses user s (s.deleteUser user) where
  users r := by simp [deleteUser, Table.eraseWhere]
  subscriptions r := by simp [deleteUser, Table.eraseWhere]
  channels r := by simp [deleteUser, Table.eraseWhere]
  policies r := by simp [deleteUser, Table.eraseWhere]
  logs := rfl

/-! ### Statements one after the other -/

variable {s s' : Store}

/-- Some statements that are carried out lead from one store to the other. -/
abbrev Changes : Store → Store → Prop :=
  Relation.ReflTransGen fun s s' => ∃ (statement : Statement) (reply : Option Int),
    statement.run s = .ok (reply, s')

theorem Sound.changes (sound : s.Sound) (changes : s.Changes s') : s'.Sound := by
  induction changes with
  | refl => exact sound
  | tail _ ran ih =>
    obtain ⟨statement, reply, ran⟩ := ran
    exact ih.run ran

theorem Changes.lastId_le (changes : s.Changes s') (table : StoredTable) :
    s.lastId table ≤ s'.lastId table := by
  induction changes with
  | refl => exact Int.le_refl _
  | tail _ ran ih =>
    obtain ⟨statement, reply, ran⟩ := ran
    exact Int.le_trans ih (Statement.lastId_le_of_run ran table)

end Store

end Reminders
