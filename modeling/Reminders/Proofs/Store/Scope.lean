import Reminders.Proofs.Store.Movement
import Reminders.Proofs.Store.Undisturbed

/-!
What a store is to one user.

The scheduler works for one user at a time. It reads the rows of that user, moves their dates, and
asks the log about their reminders, so what it does depends on the user's part of the store and
leaves the parts of others alone.

* `Store.SameFor`: two stores have the same part for a user.
* `Store.Permits`: a call keeps to the user's part, and a move is to a later charge.
* `Store.agree_answer`: the answer to such a call depends on the user's part alone.
* `Store.sameFor_of_answer`: such a call leaves the parts of others alone.
* `Store.moves_of_answer`: such a call moves one date at most.
-/

namespace Reminders.Store

variable {s s' t : Store} {user other id : Int} {d : Date}

/-! ### The part of a user -/

/-- The channels of a user. -/
def channelRows (s : Store) (user : Int) : List (Row ChannelColumn) :=
  s.channels.rows.filter fun r => (r.cell .userId).IsInt user

/-- The two stores have the same users and policies, the same channels and subscriptions of the user,
and logs that say the same about the reminders of these subscriptions. -/
structure SameFor (user : Int) (s t : Store) : Prop where
  users : t.users = s.users
  policies : t.policies = s.policies
  channels : t.channelRows user = s.channelRows user
  subscriptions : t.ofUser user = s.ofUser user
  sent : ∀ key, s.Owns user key.subscriptionId → (t.WasSent key ↔ s.WasSent key)

theorem mem_ofUser_iff {r : Row SubscriptionColumn} :
    r ∈ s.ofUser user ↔ r ∈ s.subscriptions.rows ∧ (r.cell .userId).IsInt user := by
  rw [ofUser, List.mem_filter, decide_eq_true_eq]

theorem owns_iff_exists : s.Owns user id ↔ ∃ r ∈ s.ofUser user, r.id = id := by
  simp only [owns_iff, mem_ofUser_iff]
  constructor
  · rintro ⟨r, mem, same, owner⟩
    exact ⟨r, ⟨mem, owner⟩, same⟩
  · rintro ⟨r, ⟨mem, owner⟩, same⟩
    exact ⟨r, mem, same, owner⟩

namespace SameFor

theorem owns_iff (same : SameFor user s t) : t.Owns user id ↔ s.Owns user id := by
  rw [owns_iff_exists, owns_iff_exists, same.subscriptions]

theorem refl (user : Int) (s : Store) : SameFor user s s := ⟨rfl, rfl, rfl, rfl, fun _ _ => Iff.rfl⟩

theorem trans {a b c : Store} (first : SameFor user a b) (second : SameFor user b c) :
    SameFor user a c where
  users := second.users.trans first.users
  policies := second.policies.trans first.policies
  channels := second.channels.trans first.channels
  subscriptions := second.subscriptions.trans first.subscriptions
  sent key owns := (second.sent key (first.owns_iff.mpr owns)).trans (first.sent key owns)

end SameFor

/-! ### What a move leaves -/

/-- The subscriptions of a user after a date was changed. -/
theorem ofUser_updateNextOccurrence (s : Store) (user id : Int) (d : Date) :
    (s.updateNextOccurrence id d).ofUser user =
      (s.ofUser user).map fun r => if r.id = id then r.movedTo d else r := by
  simp only [ofUser, updateNextOccurrence, Table.set, Table.modify, List.filter_map]
  congr 1
  apply List.filter_congr
  intro r _
  simp only [Function.comp_apply]
  split <;> rfl

theorem SameFor.updateNextOccurrence (same : SameFor user s t) (id : Int) (d : Date) :
    SameFor user (s.updateNextOccurrence id d) (t.updateNextOccurrence id d) where
  users := same.users
  policies := same.policies
  channels := same.channels
  subscriptions := by
    rw [ofUser_updateNextOccurrence, ofUser_updateNextOccurrence, same.subscriptions]
  sent key owns := by
    rw [Owns, owners_updateNextOccurrence] at owns
    exact same.sent key owns

/-- A date of one user's subscription is nothing to another user. -/
theorem sameFor_updateNextOccurrence (owns : s.Owns user id) (different : other ≠ user) (d : Date) :
    SameFor other s (s.updateNextOccurrence id d) where
  users := rfl
  policies := rfl
  channels := rfl
  subscriptions := by
    rw [ofUser_updateNextOccurrence]
    refine (List.map_congr_left fun r mem => if_neg ?_).trans (List.map_id _)
    rintro rfl
    exact different ((owns_iff_exists.mpr ⟨r, mem, rfl⟩ : s.Owns other r.id).eq owns)
  sent _ _ := Iff.rfl

/-- An entry about one user's subscription is nothing to another user. -/
theorem sameFor_logged {e : LogEntry} (owns : s.Owns user e.subscriptionId)
    (different : other ≠ user) : SameFor other s (s.logged e) where
  users := rfl
  policies := rfl
  channels := rfl
  subscriptions := rfl
  sent key mine := by
    rw [wasSent_logged]
    refine or_iff_left ?_
    rintro ⟨-, rfl⟩
    exact different (Owns.eq mine owns)

/-! ### Calls that keep to the part of a user -/

/-- The call asks about one user, and moves dates of that user's subscriptions only, to a later
charge. -/
def Permits (s : Store) (user : Int) : StoreCall → Prop
  | .listUsers | .upsertPolicy _ | .insertLog _ => False
  | .findUserEmail u | .findOverdue u _ | .findNotifiable u | .findSubscriptions u | .findChannels u
  | .findPolicy u => u = user
  | .updateNextOccurrence id d => ∃ r ∈ s.ofUser user, r.id = id ∧ r.Moves (r.movedTo d)
  | .existsSentLog key => s.Owns user key.subscriptionId

variable {call : StoreCall}

theorem Permits.sameFor (permits : s.Permits user call) (same : SameFor user s t) :
    t.Permits user call := by
  cases call with
  | listUsers | upsertPolicy | insertLog => exact permits.elim
  | findUserEmail | findOverdue | findNotifiable | findSubscriptions | findChannels | findPolicy =>
    exact permits
  | updateNextOccurrence id d =>
    rw [Permits, same.subscriptions]
    exact permits
  | existsSentLog key => exact same.owns_iff.mpr permits

theorem Permits.readsOrMoves (permits : s.Permits user call) : call.ReadsOrMoves := by
  cases call with
  | upsertPolicy | insertLog => exact permits.elim
  | _ => trivial

/-- The two answers are the same refusal, or the same reply with stores that are the same for the
user. -/
def Agree (user : Int) : Except StoreError (α × Store) → Except StoreError (α × Store) → Prop
  | .ok (a, s), .ok (b, t) => a = b ∧ SameFor user s t
  | .error e, .error f => e = f
  | _, _ => False

theorem agree_query {x y : Except StoreError α} (found : y = x) (same : SameFor user s t) :
    Agree user (x.map (·, s)) (y.map (·, t)) := by
  subst found
  cases y with
  | ok a => exact ⟨rfl, same⟩
  | error e => exact rfl

/-- The channels that are found are among the channels of the user. -/
theorem findChannels_eq_of_channelRows (same : t.channelRows user = s.channelRows user) :
    t.findChannels user = s.findChannels user := by
  have enabled (s : Store) : (s.enabledChannels.filter fun r => (r.cell .userId).IsInt user) =
      (s.channelRows user).filter fun r => (r.cell .enabled).IsInt 1 := by
    rw [enabledChannels, channelRows, List.filter_comm]
  simp only [findChannels, enabled, same]

/-- **The answer to a call of a user depends on the user's part of the store alone.** -/
theorem agree_answer (permits : s.Permits user call) (same : SameFor user s t) :
    Agree user (s.answer call) (t.answer call) := by
  cases call with
  | listUsers | upsertPolicy | insertLog => exact permits.elim
  | findUserEmail =>
    cases permits
    exact agree_query (by rw [userEmail?, userEmail?, same.users]) same
  | findOverdue =>
    cases permits
    exact agree_query (by rw [findOverdue, findOverdue, same.subscriptions]) same
  | findNotifiable =>
    cases permits
    exact agree_query (by rw [findNotifiable, findNotifiable, same.subscriptions]) same
  | findSubscriptions =>
    cases permits
    exact agree_query (by rw [findSubscriptions, findSubscriptions, same.subscriptions]) same
  | findChannels =>
    cases permits
    exact agree_query (findChannels_eq_of_channelRows same.channels) same
  | findPolicy =>
    cases permits
    exact agree_query (by rw [findPolicy, findPolicy, same.policies]) same
  | updateNextOccurrence id d => exact ⟨rfl, same.updateNextOccurrence id d⟩
  | existsSentLog key => exact ⟨decide_eq_decide.mpr (same.sent key permits).symm, same⟩

/-- **A call of one user leaves the parts of others alone.** -/
theorem sameFor_of_answer {reply : call.Reply} (permits : s.Permits user call)
    (answered : s.answer call = .ok (reply, s')) (different : other ≠ user) :
    SameFor other s s' := by
  cases call with
  | listUsers | upsertPolicy | insertLog => exact permits.elim
  | updateNextOccurrence id d =>
    obtain ⟨r, mem, rfl, -⟩ := permits
    cases answered
    exact sameFor_updateNextOccurrence (owns_iff_exists.mpr ⟨r, mem, rfl⟩) different d
  | existsSentLog key =>
    cases answered
    exact .refl other s
  | findUserEmail | findOverdue | findNotifiable | findSubscriptions | findChannels | findPolicy =>
    obtain ⟨-, rfl⟩ := Script.map_store_eq_ok_iff.mp answered
    exact .refl other _

/-- **A call of a user moves one date at most**, to a later charge. -/
theorem moves_of_answer {reply : call.Reply} (permits : s.Permits user call)
    (answered : s.answer call = .ok (reply, s')) : s.Moves s' := by
  cases call with
  | listUsers | upsertPolicy | insertLog => exact permits.elim
  | updateNextOccurrence id d =>
    obtain ⟨r, mem, rfl, move⟩ := permits
    cases answered
    exact .inr ⟨r, (mem_ofUser_iff.mp mem).1, d, move, rfl⟩
  | existsSentLog key =>
    cases answered
    exact .refl s
  | findUserEmail | findOverdue | findNotifiable | findSubscriptions | findChannels | findPolicy =>
    obtain ⟨-, rfl⟩ := Script.map_store_eq_ok_iff.mp answered
    exact .refl _

end Reminders.Store
