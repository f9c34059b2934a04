import Reminders.Proofs.Script.Run
import Reminders.Proofs.Store.Legible
import Reminders.Proofs.Store.Text
import Reminders.Proofs.Store.Writes
import Reminders.Store.Overwrite

/-!
Stores in order.

A store is in order when all its rows can be read. Its own calls keep it so. When others overwrite
columns of one subscription, that row may not be readable any more, but all other rows are.

* `Store.Tidy.answer`, `Store.Tidy.run`: the calls of the store keep its rows in order.
* `Store.Spoils.tidy`: when one subscription is overwritten, the other rows are still in order.
-/

namespace Reminders

namespace Table

/-- What holds of every row and of a new one holds of every row after it was added. -/
theorem forall_insert {t : Table κ} {cells : κ → Cell} {P : Row κ → Prop}
    (all : ∀ r ∈ t.rows, P r) (new : P ⟨t.nextId, cells⟩) : ∀ r ∈ (t.insert cells).rows, P r := by
  intro r mem
  rcases List.mem_append.mp mem with mem | mem
  · exact all r mem
  · rw [List.mem_singleton.mp mem]
    exact new

/-- What holds of every row and is kept by a change holds of every row after it. -/
theorem forall_modify {t : Table κ} {id : Int} {change : Row κ → κ → Cell} {P : Row κ → Prop}
    (all : ∀ r ∈ t.rows, P r) (changed : ∀ r, P r → P { r with cell := change r }) :
    ∀ r ∈ (t.modify id change).rows, P r := by
  intro r mem
  obtain ⟨r, before, rfl⟩ := List.mem_map.mp mem
  split
  · exact changed r (all r before)
  · exact all r before

end Table

namespace Store

/-- Every row can be read, the subscriptions column by column. -/
structure Tidy (s : Store) : Prop where
  users : ∀ r ∈ s.users.rows, ∃ email, r.cell .email = .text email
  subscriptions : ∀ r ∈ s.subscriptions.rows, r.IsTidy
  policies : ∀ r ∈ s.policies.rows, ∃ p, Policy.ofRow r = .ok p
  channels : ∀ r ∈ s.channels.rows, ∃ c, Channel.ofRow r = .ok c

variable {s s' : Store} {id : Int}

namespace Tidy

theorem empty : Tidy .empty where
  users _ mem := absurd mem List.not_mem_nil
  subscriptions _ mem := absurd mem List.not_mem_nil
  policies _ mem := absurd mem List.not_mem_nil
  channels _ mem := absurd mem List.not_mem_nil

theorem createUser {email : String} (tidy : s.Tidy)
    (created : s.createUser email = .ok (id, s')) : s'.Tidy := by
  obtain ⟨-, -, rfl⟩ := createUser_eq_ok_iff.mp created
  exact { tidy with users := Table.forall_insert tidy.users ⟨email, rfl⟩ }

theorem insertSubscription {sub : Subscription} (tidy : s.Tidy)
    (inserted : s.insertSubscription sub = .ok (id, s')) : s'.Tidy := by
  obtain ⟨⟨checked, -⟩, -, rfl⟩ := insertSubscription_eq_ok_iff.mp inserted
  exact { tidy with
    subscriptions := Table.forall_insert tidy.subscriptions (sub.isTidy_stored _ checked) }

theorem insertChannel {user : Int} {type : ChannelType} {config : Json} {template : Option String}
    (tidy : s.Tidy) (inserted : s.insertChannel user type config template = .ok (id, s')) :
    s'.Tidy := by
  obtain ⟨-, -, rfl⟩ := insertChannel_eq_ok_iff.mp inserted
  exact { tidy with
    channels := Table.forall_insert tidy.channels (Channel.exists_ofRow_toCells _ user type config template) }

/-- Whether a channel is on is not among what is read of it. -/
theorem setChannelEnabled (tidy : s.Tidy) (id : Int) (enabled : Bool) :
    (s.setChannelEnabled id enabled).Tidy :=
  { tidy with channels := Table.forall_modify tidy.channels fun _ readable => readable }

theorem upsertPolicy {policy : Policy} (tidy : s.Tidy)
    (written : s.upsertPolicy policy = .ok s') : s'.Tidy := by
  rcases upsertPolicy_eq_ok_iff.mp written with ⟨-, rfl⟩ | ⟨-, -, rfl⟩
  · exact { tidy with
      policies := Table.forall_modify tidy.policies fun r _ => policy.exists_ofRow_toCells r.id }
  · refine { tidy with policies := fun r mem => ?_ }
    rcases Table.mem_insertRow mem with rfl | mem
    · exact policy.exists_ofRow_toCells policy.userId
    · exact tidy.policies r mem

theorem insertLog {entry : LogEntry} (tidy : s.Tidy)
    (written : s.insertLog entry = .ok s') : s'.Tidy := by
  obtain ⟨-, rfl⟩ := insertLog_eq_ok_iff.mp written
  exact { tidy with }

theorem updateNextOccurrence (tidy : s.Tidy) (id : Int) (d : Date) :
    (s.updateNextOccurrence id d).Tidy :=
  { tidy with
    subscriptions := Table.forall_modify tidy.subscriptions fun _ readable => readable.movedTo d }

/-- **A call keeps the rows in order.** -/
theorem answer {call : StoreCall} {reply : call.Reply} (tidy : s.Tidy)
    (answered : s.answer call = .ok (reply, s')) : s'.Tidy := by
  cases call with
  | updateNextOccurrence id d =>
    cases answered
    exact tidy.updateNextOccurrence id d
  | upsertPolicy policy => exact tidy.upsertPolicy (eq_ok_of_map_unit_eq_ok answered)
  | insertLog entry => exact tidy.insertLog (eq_ok_of_map_unit_eq_ok answered)
  | existsSentLog key =>
    cases answered
    exact tidy
  | listUsers | findUserEmail | findOverdue | findNotifiable | findSubscriptions | findChannels
  | findPolicy =>
    obtain ⟨-, rfl⟩ := Script.map_store_eq_ok_iff.mp answered
    exact tidy

/-- So does a script. -/
theorem run (tidy : s.Tidy) (x : Script α) (desk : Desk) : (x.run desk s).2.Tidy := by
  induction x generalizing s with
  | done a => exact tidy
  | fail failure => exact tidy
  | ask call next ih =>
    simp only [Script.run]
    cases served : s.serve desk call with
    | error e => exact tidy
    | ok reply => exact ih reply.1 (tidy.answer (answer_eq_of_serve_eq_ok served))

end Tidy

/-! ### Overwriting one subscription -/

/-- The store without the subscription with an id. -/
def withoutSubscription (s : Store) (id : Int) : Store := (s.eraseRow id .subscriptions).2

/-- Columns of the subscription with this id have been overwritten. -/
def Spoils (id : Int) : Store → Store → Prop :=
  Relation.ReflTransGen fun s t => ∃ column value changed,
    s.overwrite id value (.subscription column) = .ok (changed, t)

variable {s t : Store} {id : Int}

theorem rows_withoutSubscription (s : Store) (id : Int) :
    (s.withoutSubscription id).subscriptions.rows =
      s.subscriptions.rows.filter fun r => !decide (r.id = id) := rfl

theorem withoutSubscription_of_overwrite {column : SubscriptionColumn} {value : Cell} {changed : Nat}
    (written : s.overwrite id value (.subscription column) = .ok (changed, t)) :
    t.withoutSubscription id = s.withoutSubscription id := by
  obtain ⟨⟨n, subscriptions⟩, table, written⟩ := except_bind_eq_ok_iff.mp written
  cases written
  unfold Table.overwrite at table
  split at table
  · cases table
    rfl
  · dsimp only at table
    split at table
    · cases table
    · cases table
      refine congrArg (fun table : Table SubscriptionColumn => { s with subscriptions := table }) ?_
      refine Table.ext ?_ rfl
      change (List.map _ _).filter _ = List.filter _ _
      rw [List.filter_map]
      refine (List.map_congr_left fun r mem => if_neg ?_).trans ((List.map_id _).trans ?_)
      · intro same
        have other := (List.mem_filter.mp mem).2
        simp [same] at other
      · apply List.filter_congr
        intro r _
        simp only [Function.comp_apply]
        split <;> rfl

/-- The other rows of a store whose rows could be read still can. -/
theorem Spoils.tidy (spoils : Spoils id s t) (tidy : s.Tidy) : (t.withoutSubscription id).Tidy := by
  have same : t.withoutSubscription id = s.withoutSubscription id := by
    induction spoils with
    | refl => rfl
    | tail _ written ih =>
      obtain ⟨column, value, changed, written⟩ := written
      exact (withoutSubscription_of_overwrite written).trans ih
  rw [same]
  exact { tidy with subscriptions := fun r mem => tidy.subscriptions r (List.mem_filter.mp mem).1 }

end Store

end Reminders
