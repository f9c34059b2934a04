import Reminders.Proofs.Scheduler.Ledger
import Reminders.Proofs.Scheduler.Sequential
import Reminders.Proofs.Store.Text
import Reminders.Proofs.Store.Writes
import Reminders.Scheduler.System

/-!
No reminder is sent twice.

However a store is used between and during ticks, whatever days the ticks are on and whoever takes
the turns, the sender takes a reminder once at most. The log says so as soon as the worker that heard
of it has written its row, and it has refused nothing.

* `Operation.sameLog`: what is not a tick writes nothing into the log.
* `System.Ledger.step`: every step keeps the ledger.
* `System.at_most_once`
-/

namespace Reminders

open Store

/-! ### Operations -/

namespace Store

variable {s : Store}

/-- What is true of a store, and of what a write leaves that succeeds, is true after the write. -/
theorem after_of {P : Store → Prop} {x : Except StoreError (α × Store)} (before : P s)
    (writes : ∀ a s', x = .ok (a, s') → P s') : P (s.after x) := by
  cases x with
  | ok written => exact writes written.1 written.2 rfl
  | error e => exact before

theorem sameLog_createUser {email : String} {id : Int} {s' : Store}
    (created : s.createUser email = .ok (id, s')) : s.SameLog s' := by
  obtain ⟨-, -, rfl⟩ := createUser_eq_ok_iff.mp created
  exact ⟨rfl, List.Subset.refl _⟩

theorem sameLog_insertSubscription {sub : Subscription} {id : Int} {s' : Store}
    (inserted : s.insertSubscription sub = .ok (id, s')) : s.SameLog s' := by
  obtain ⟨-, -, rfl⟩ := insertSubscription_eq_ok_iff.mp inserted
  refine ⟨rfl, ?_⟩
  rw [owners, owners, Table.insert, List.map_append]
  exact List.subset_append_left _ _

theorem sameLog_insertChannel {user : Int} {type : ChannelType} {config : Json}
    {template : Option String} {id : Int} {s' : Store}
    (inserted : s.insertChannel user type config template = .ok (id, s')) : s.SameLog s' := by
  obtain ⟨-, -, rfl⟩ := insertChannel_eq_ok_iff.mp inserted
  exact ⟨rfl, List.Subset.refl _⟩

theorem sameLog_upsertPolicy {policy : Policy} {s' : Store}
    (written : s.upsertPolicy policy = .ok s') : s.SameLog s' := by
  rcases upsertPolicy_eq_ok_iff.mp written with ⟨-, rfl⟩ | ⟨-, -, rfl⟩
  · exact ⟨rfl, List.Subset.refl _⟩
  · exact ⟨rfl, List.Subset.refl _⟩

theorem sameLog_of_map {policy : Policy} {u : Unit} {s' : Store}
    (written : (s.upsertPolicy policy).map ((), ·) = .ok (u, s')) : s.SameLog s' :=
  sameLog_upsertPolicy (eq_ok_of_map_unit_eq_ok written)

/-- A call that adds no entry leaves the log as it is. -/
theorem sameLog_of_answer {call : StoreCall} {reply : call.Reply} {s' : Store}
    (noEntry : ∀ entry, call ≠ .insertLog entry) (answered : s.answer call = .ok (reply, s')) :
    s.SameLog s' := by
  by_cases allowed : call.ReadsOrMoves
  · exact (sameButDates_of_answer allowed answered).sameLog
  · cases call with
    | insertLog entry => exact absurd rfl (noEntry entry)
    | upsertPolicy policy => exact sameLog_of_map answered
    | _ => exact absurd trivial allowed

end Store

/-- **A store that is closed and opened again is the same store.** -/
theorem Store.reopened_eq (s : Store) : s.reopened = s := by
  rw [reopened]
  cases read : ofText? s.toText with
  | none => rfl
  | some s' => exact eq_of_ofText?_toText read

theorem Script.onlyCalls_updatePolicy (user : Int) (update : PolicyUpdate) :
    (updatePolicy user update).OnlyCalls fun call => ∀ entry, call ≠ .insertLog entry := by
  refine .bind ?_ fun days => .bind (.call fun _ h => nomatch h) fun stored =>
    .bind (.call fun _ h => nomatch h) fun _ => .pure _
  cases update.leadTime <;> trivial

theorem Script.onlyCalls_summary (user : Int) (today : Date) :
    (summary user today).OnlyCalls StoreCall.ReadsOrMoves := by
  refine .bind (onlyCalls_advanceUser user today) ?_
  intro _
  split
  · trivial
  · exact .bind (.call trivial) fun _ => .pure _

/-- **What is not a tick writes nothing into the log.** -/
theorem Operation.sameLog (operation : Operation) (desk : Desk) (s : Store) :
    s.SameLog (operation.perform desk s) := by
  cases operation with
  | createUser email => exact after_of (.refl s) fun _ _ => sameLog_createUser
  | insertSubscription sub => exact after_of (.refl s) fun _ _ => sameLog_insertSubscription
  | insertChannel user type config template =>
    exact after_of (.refl s) fun _ _ => sameLog_insertChannel
  | setChannelEnabled channel enabled => exact ⟨rfl, List.Subset.refl _⟩
  | upsertPolicy policy => exact after_of (.refl s) fun _ _ => sameLog_of_map
  | updatePolicy user update =>
    exact (Script.onlyCalls_updatePolicy user update).run .refl .trans sameLog_of_answer desk s
  | summary user today =>
    exact (Script.onlyCalls_summary user today).run .refl .trans
      (fun allowed answered => (sameButDates_of_answer allowed answered).sameLog) desk s
  | reopen =>
    rw [Operation.perform, s.reopened_eq]
    exact .refl s

/-! ### Who is listed -/

namespace Store

theorem mem_insertId {id a : Int} {ids : List Int} (mem : a ∈ insertId id ids) :
    a = id ∨ a ∈ ids := by
  induction ids with
  | nil => exact .inl (List.mem_singleton.mp mem)
  | cons i rest ih =>
    unfold insertId at mem
    split at mem
    · exact List.mem_cons.mp mem
    · split at mem
      · exact .inr mem
      · rcases List.mem_cons.mp mem with rfl | mem
        · exact .inr List.mem_cons_self
        · exact (ih mem).imp_right (List.mem_cons_of_mem _)

theorem ascending_insertId (id : Int) {ids : List Int} (ascending : ids.Pairwise (· < ·)) :
    (insertId id ids).Pairwise (· < ·) := by
  induction ids with
  | nil => exact List.pairwise_singleton _ _
  | cons i rest ih =>
    obtain ⟨first, later⟩ := List.pairwise_cons.mp ascending
    unfold insertId
    split
    · rename_i lt
      refine List.pairwise_cons.mpr ⟨?_, ascending⟩
      intro a mem
      rcases List.mem_cons.mp mem with rfl | mem
      · exact lt
      · exact Int.lt_trans lt (first a mem)
    · split
      · exact ascending
      · refine List.pairwise_cons.mpr ⟨?_, ih later⟩
        intro a mem
        rcases mem_insertId mem with rfl | mem
        · omega
        · exact first a mem

/-- Every user is listed once. -/
theorem nodup_listUsers {s : Store} {users : List Int} (listed : s.listUsers = .ok users) :
    users.Nodup := by
  obtain ⟨ids, -, same⟩ := except_bind_eq_ok_iff.mp (doing_eq_ok_iff.mp listed)
  cases same
  have ascending : ∀ (ids sorted : List Int), sorted.Pairwise (· < ·) →
      (ids.foldl (fun sorted id => insertId id sorted) sorted).Pairwise (· < ·) := by
    intro ids
    induction ids with
    | nil => exact fun _ => id
    | cons id rest ih => exact fun sorted h => ih _ (ascending_insertId id h)
  exact (ascending ids [] .nil).imp Int.ne_of_lt

end Store

/-! ### Steps -/

theorem Round.Ledger.sameLog {r : Round} {world : World} {s : Store} (ledger : r.Ledger world)
    (same : world.store.SameLog s) : r.Ledger { world with store := s } where
  sound w mem user task holds := (ledger.sound w mem user task holds).undisturbed
    (same.undisturbed user)
  distinct := ledger.distinct
  clean := ledger.clean
  balanced := ledger.balanced.sameLog same

namespace System

/-- The keys that the sender has taken and whose rows are not in the log yet. -/
def pendingKeys (sys : System) : List ReminderKey := sys.ticking.elim [] (·.round.pendingKeys)

/-- What the tick that goes on has in hand. Without one nothing is. -/
def Ledger (sys : System) : Prop :=
  match sys.ticking with
  | some ticking => ticking.round.Ledger sys.world
  | none => sys.world.Balanced (fun _ => 0) fun _ => 0

theorem ledger_initial : initial.Ledger := ⟨fun _ => rfl, fun _ => Nat.zero_le 1⟩

/-- **Every step keeps the ledger.** -/
theorem Ledger.step {a b : System} (ledger : a.Ledger) (step : Step a b) : b.Ledger := by
  cases step with
  | operate operation desk world ticking =>
    have same := operation.sameLog desk world.store
    cases ticking with
    | some ticking => exact Round.Ledger.sameLog ledger same
    | none => exact World.Balanced.sameLog ledger same
  | start e today listed => exact Round.ledger_start e (nodup_listUsers listed) ledger
  | @turn e today t round round' world world' keepsLog step =>
    have ledger : round.Ledger world := ledger
    exact ledger.move keepsLog (Round.step_eq_some_iff.mp step)
  | finish ended => exact Round.Ledger.balanced_of_isOver ledger ended

/-- The ledger of a whole run, whatever happens in it. -/
theorem ledger_of_reached {sys : System} (reached : Relation.ReflTransGen Step initial sys) :
    sys.Ledger := by
  induction reached with
  | refl => exact ledger_initial
  | tail _ step ih => exact ih.step step

/-- **No reminder is sent twice.** After every run from an empty store the sender has taken each
reminder once at most. The log has one row for each that was taken, except for the one that a worker
has just heard of, and no row for any other. No tick has met an entry that the log refused. -/
theorem at_most_once {sys : System} (reached : Relation.ReflTransGen Step initial sys) :
    (∀ key, (takenKeys sys.world.events).count key ≤ 1 ∧
      sys.world.store.sentCount key + sys.pendingKeys.count key =
        (takenKeys sys.world.events).count key) ∧
    (sys.ticking = none → ∀ key,
      sys.world.store.sentCount key = (takenKeys sys.world.events).count key) ∧
    ∀ ticking, sys.ticking = some ticking → ticking.round.report.totals.delivery.logErrors = 0 := by
  have ledger := ledger_of_reached reached
  obtain ⟨world, ticking⟩ := sys
  cases ticking with
  | none =>
    have balanced : world.Balanced (fun _ => 0) fun _ => 0 := ledger
    exact ⟨fun key => ⟨balanced.once key, balanced.counted key⟩, fun _ => balanced.counted,
      fun _ none => nomatch none⟩
  | some ticking =>
    have ledger : ticking.round.Ledger world := ledger
    refine ⟨fun key => ⟨?_, ledger.balanced.counted key⟩, fun none => (nomatch none), ?_⟩
    · exact Nat.le_trans (Nat.le_add_right _ _) (ledger.balanced.once key)
    · rintro _ ⟨⟩
      exact ledger.logErrors_eq_zero

/-- Operations follow each other. -/
theorem reaches_operations (desk : Desk) (operations : List Operation) (s : Store)
    (events : List Event) (ticking : Option Ticking) :
    Relation.ReflTransGen Step ⟨⟨s, events⟩, ticking⟩
      ⟨⟨operations.foldl (fun s operation => operation.perform desk s) s, events⟩, ticking⟩ := by
  induction operations generalizing s with
  | nil => exact .refl
  | cons operation rest ih => exact .head (.operate operation desk _ _) (ih _)

/-- A tick that runs one user after the other is one of the ways to go on. -/
theorem reaches_tick {s : Store} {users : List Int} (listed : s.listUsers = .ok users) (e : Engine)
    (sender : Sender) (now : Instant) (today : Date) :
    ∃ events, Relation.ReflTransGen Step ⟨⟨s, []⟩, none⟩
      ⟨⟨(e.tick sender .open now s today).store, events⟩, none⟩ := by
  obtain ⟨r, events, ran, ended, -⟩ := e.runs_tick sender .open now s s today users
    (Script.map_store_eq_ok_iff.mpr ⟨listed, rfl⟩)
  have turns : Relation.ReflTransGen Step ⟨⟨s, []⟩, some ⟨e, today, .start e users⟩⟩
      ⟨⟨(e.tick sender .open now s today).store, events⟩, some ⟨e, today, r⟩⟩ :=
    ran.lift (fun c => (⟨c.2, some ⟨e, today, c.1⟩⟩ : System)) fun _ _ stepped =>
      .turn (fun _ => rfl) stepped
  exact ⟨events, .head (.start e today listed) (turns.tail (.finish ended))⟩

end System

/-! ### A first reminder -/

namespace Sample

/-- A subscription that charges today. -/
def subscription : Subscription :=
  ⟨0, 1, "Music", .recurring, none, none, none, none, none, none, some today, .ofBits 0, "EUR",
    true, none, none, none, none, none, none⟩

/-- What makes a store with one reminder. -/
def operations : List Operation :=
  [.createUser "ada@example.org", .insertSubscription subscription,
    .insertChannel 1 .ntfy .null none]

/-- The store that they make. -/
def filled : Store := operations.foldl (fun s operation => operation.perform .open s) .empty

end Sample

namespace System

/-- A run in which one reminder is sent. -/
theorem at_most_once_sample :
    ∃ sys, Relation.ReflTransGen Step initial sys ∧ sys.ticking = none ∧
      sys.world.store.sentCount ⟨1, .ntfy, Sample.today⟩ = 1 ∧
      (takenKeys sys.world.events).count ⟨1, .ntfy, Sample.today⟩ = 1 := by
  have listed : Sample.filled.listUsers = .ok [1] := by decide +kernel
  have sent : (Sample.engine.tick Sample.sender .open Sample.noon Sample.filled
      Sample.today).store.sentCount ⟨1, .ntfy, Sample.today⟩ = 1 := by decide +kernel
  have filled : Relation.ReflTransGen Step initial ⟨⟨Sample.filled, []⟩, none⟩ :=
    reaches_operations .open Sample.operations .empty [] none
  obtain ⟨events, ticked⟩ :=
    reaches_tick listed Sample.engine Sample.sender Sample.noon Sample.today
  generalize (Sample.engine.tick Sample.sender .open Sample.noon Sample.filled Sample.today).store =
    last at sent ticked
  have reached := filled.trans ticked
  refine ⟨_, reached, rfl, sent, ?_⟩
  rw [← (at_most_once reached).2.1 rfl]
  exact sent

end System

end Reminders
