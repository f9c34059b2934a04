import Reminders.Scheduler.Work

/-!
Playing scripts.

A script that is played by itself goes through its calls in order, so a success of the whole is a
success of each piece on the store that the pieces before it left. What no call of a script changes
is not changed by the script, however it ends.

* `Script.run_bind_eq_ok_iff`: the pieces of a success.
* `Script.OnlyCalls`: every call of a script has a property, whatever the replies.
* `Script.run_advanceUser`: moving subscriptions forward changes dates of subscriptions only.
-/

namespace Reminders

@[simp] theorem Store.serve_open (s : Store) (call : StoreCall) :
    s.serve .open call = s.answer call := rfl

/-- A call succeeds when the desk lets it through and the tables answer it. -/
theorem Store.serve_eq_ok_iff {s : Store} {desk : Desk} {call : StoreCall}
    {reply : call.Reply × Store} :
    s.serve desk call = .ok reply ↔ desk call = none ∧ s.answer call = .ok reply := by
  unfold Store.serve
  cases desk call with
  | none => exact ⟨fun answered => ⟨rfl, answered⟩, And.right⟩
  | some reason => exact ⟨nofun, fun h => nomatch h.1⟩

/-- What a desk lets through is answered by the tables. -/
theorem Store.answer_eq_of_serve_eq_ok {s : Store} {desk : Desk} {call : StoreCall}
    {reply : call.Reply × Store} (served : s.serve desk call = .ok reply) :
    s.answer call = .ok reply :=
  (serve_eq_ok_iff.mp served).2

/-! ### One piece after another -/

namespace Script

variable {desk : Desk} {s s' : Store}

@[simp] theorem run_pure (a : α) : (pure a : Script α).run desk s = (.ok a, s) := rfl

theorem run_bind_eq_ok_iff {x : Script α} {f : α → Script β} {b : β} :
    (x >>= f).run desk s = (.ok b, s') ↔
      ∃ a t, x.run desk s = (.ok a, t) ∧ (f a).run desk t = (.ok b, s') := by
  change (x.bind f).run desk s = _ ↔ _
  induction x generalizing s with
  | done a =>
    constructor
    · exact fun h => ⟨a, s, rfl, h⟩
    · rintro ⟨_, _, same, h⟩; cases same; exact h
  | fail failure => exact ⟨nofun, nofun⟩
  | ask call next ih =>
    simp only [bind, run]
    cases s.serve desk call with
    | error e => exact ⟨nofun, nofun⟩
    | ok served => exact ih served.1

theorem run_call_eq_ok_iff {c : StoreCall} {reply : c.Reply} :
    (call c).run desk s = (.ok reply, s') ↔ s.serve desk c = .ok (reply, s') := by
  simp only [call, run]
  cases s.serve desk c with
  | error e => exact ⟨nofun, nofun⟩
  | ok served => exact ⟨fun h => by cases h; rfl, fun h => by cases h; rfl⟩

/-- The pieces of a script that starts with a call. -/
theorem run_call_bind_eq_ok_iff {c : StoreCall} {f : c.Reply → Script β} {b : β} :
    (call c >>= f).run .open s = (.ok b, s') ↔
      ∃ reply t, s.answer c = .ok (reply, t) ∧ (f reply).run .open t = (.ok b, s') := by
  simp only [run_bind_eq_ok_iff, run_call_eq_ok_iff, Store.serve_open]

/-- A query leaves the store as it is. -/
theorem map_store_eq_ok_iff {x : Except ε α} {a : α} :
    x.map (·, s) = .ok (a, s') ↔ x = .ok a ∧ s' = s := by
  cases x with
  | error e => exact ⟨nofun, nofun⟩
  | ok b =>
    constructor
    · intro h; cases h; exact ⟨rfl, rfl⟩
    · rintro ⟨h, rfl⟩; cases h; rfl

/-- The next call of a script is answered, and the script goes on from the reply, or it is refused. -/
theorem next_eq_some {x x' : Script α} (stepped : x.next desk s = some (x', s')) :
    (∃ call next reply, x = .ask call next ∧ s.answer call = .ok (reply, s') ∧ x' = next reply) ∨
      ∃ failure, x' = .fail failure ∧ s' = s := by
  cases x with
  | done a => cases stepped
  | fail failure => cases stepped
  | ask call next =>
    simp only [Script.next] at stepped
    split at stepped
    · rename_i reply after served
      cases stepped
      exact .inl ⟨call, next, reply, rfl, Store.answer_eq_of_serve_eq_ok served, rfl⟩
    · cases stepped
      exact .inr ⟨_, rfl, rfl⟩

/-! ### Which calls a script makes -/

/-- Every call that the script can come to has a property. -/
def OnlyCalls (P : StoreCall → Prop) : Script α → Prop
  | .done _ => True
  | .fail _ => True
  | .ask call next => P call ∧ ∀ reply, (next reply).OnlyCalls P

variable {P : StoreCall → Prop}

theorem OnlyCalls.pure (a : α) : (pure a : Script α).OnlyCalls P := trivial

theorem OnlyCalls.call {c : StoreCall} (h : P c) : (call c).OnlyCalls P := ⟨h, fun _ => trivial⟩

theorem OnlyCalls.bind {x : Script α} {f : α → Script β} (first : x.OnlyCalls P)
    (later : ∀ a, (f a).OnlyCalls P) : (x >>= f).OnlyCalls P := by
  change (x.bind f).OnlyCalls P
  induction x with
  | done a => exact later a
  | fail failure => trivial
  | ask call next ih => exact ⟨first.1, fun reply => ih reply (first.2 reply)⟩

theorem OnlyCalls.each {f : α → Script β} (one : ∀ a, (f a).OnlyCalls P) (l : List α) :
    (each f l).OnlyCalls P := by
  induction l with
  | nil => exact .pure []
  | cons a rest ih => exact .bind (one a) fun b => .bind ih fun bs => .pure (b :: bs)

theorem OnlyCalls.imp {Q : StoreCall → Prop} (weaker : ∀ call, P call → Q call) {x : Script α}
    (only : x.OnlyCalls P) : x.OnlyCalls Q := by
  induction x with
  | done a => trivial
  | fail failure => trivial
  | ask call next ih => exact ⟨weaker call only.1, fun reply => ih reply (only.2 reply)⟩

/-- A relation that every call keeps is kept by the script. -/
theorem OnlyCalls.run {R : Store → Store → Prop} (refl : ∀ s, R s s)
    (trans : ∀ {a b c}, R a b → R b c → R a c)
    (keeps : ∀ {call reply s s'}, P call → s.answer call = .ok (reply, s') → R s s')
    {x : Script α} (only : x.OnlyCalls P) (desk : Desk) (s : Store) : R s (x.run desk s).2 := by
  induction x generalizing s with
  | done a => exact refl s
  | fail failure => exact refl s
  | ask call next ih =>
    simp only [Script.run]
    cases served : s.serve desk call with
    | error e => exact refl s
    | ok reply =>
      exact trans (keeps only.1 (Store.answer_eq_of_serve_eq_ok served))
        (ih reply.1 (only.2 reply.1) reply.2)

end Script

/-! ### Moving subscriptions forward -/

namespace StoreCall

/-- The call leaves the store as it is. -/
def Reads : StoreCall → Prop
  | .updateNextOccurrence _ _ | .upsertPolicy _ | .insertLog _ => False
  | _ => True

/-- The call reads, or moves the date of a subscription. -/
def ReadsOrMoves : StoreCall → Prop
  | .upsertPolicy _ | .insertLog _ => False
  | _ => True

theorem Reads.readsOrMoves {call : StoreCall} (reads : call.Reads) : call.ReadsOrMoves := by
  cases call with
  | updateNextOccurrence | upsertPolicy | insertLog => exact reads.elim
  | _ => trivial

end StoreCall

namespace Store

/-- The subscriptions, each with the cell that names its user. -/
def owners (s : Store) : List (Int × Cell) :=
  s.subscriptions.rows.map fun r => (r.id, r.cell .userId)

/-- The store differs from another one in its subscriptions at most, and each of them still belongs
to the same user. -/
structure SameButDates (s s' : Store) : Prop where
  users : s'.users = s.users
  policies : s'.policies = s.policies
  channels : s'.channels = s.channels
  logs : s'.logs = s.logs
  owners : s'.owners = s.owners

theorem SameButDates.refl (s : Store) : s.SameButDates s := ⟨rfl, rfl, rfl, rfl, rfl⟩

theorem SameButDates.trans {a b c : Store} (first : a.SameButDates b)
    (second : b.SameButDates c) : a.SameButDates c where
  users := second.users.trans first.users
  policies := second.policies.trans first.policies
  channels := second.channels.trans first.channels
  logs := second.logs.trans first.logs
  owners := second.owners.trans first.owners

theorem owners_updateNextOccurrence (s : Store) (id : Int) (date : Date) :
    (s.updateNextOccurrence id date).owners = s.owners := by
  simp only [owners, updateNextOccurrence, Table.set, Table.modify, List.map_map]
  apply List.map_congr_left
  intro r _
  simp only [Function.comp_apply]
  split <;> rfl

/-- A call that reads or moves a date changes nothing else. -/
theorem sameButDates_of_answer {call : StoreCall} {reply : call.Reply} {s s' : Store}
    (allowed : call.ReadsOrMoves) (answered : s.answer call = .ok (reply, s')) :
    s.SameButDates s' := by
  cases call with
  | upsertPolicy policy => exact allowed.elim
  | insertLog entry => exact allowed.elim
  | updateNextOccurrence id date =>
    cases answered
    exact ⟨rfl, rfl, rfl, rfl, s.owners_updateNextOccurrence id date⟩
  | existsSentLog key => cases answered; exact .refl s
  | listUsers | findUserEmail | findOverdue | findNotifiable | findSubscriptions | findChannels
  | findPolicy =>
    obtain ⟨-, rfl⟩ := Script.map_store_eq_ok_iff.mp answered
    exact .refl _

end Store

namespace Script

theorem onlyCalls_advanceEach (today : Date) (subs : List Subscription) :
    (advanceEach today subs).OnlyCalls StoreCall.ReadsOrMoves := by
  induction subs with
  | nil => exact .pure 0
  | cons sub rest ih =>
    unfold advanceEach
    split
    · exact .bind (.call trivial) fun _ => .bind ih fun _ => .pure _
    · exact ih

theorem onlyCalls_advanceUser (user : Int) (today : Date) :
    (advanceUser user today).OnlyCalls StoreCall.ReadsOrMoves :=
  .bind (.call trivial) fun _ => onlyCalls_advanceEach today _

/-- Moving subscriptions forward changes dates of subscriptions only. -/
theorem run_advanceUser (user : Int) (today : Date) (desk : Desk) (s : Store) :
    s.SameButDates ((advanceUser user today).run desk s).2 :=
  (onlyCalls_advanceUser user today).run .refl .trans Store.sameButDates_of_answer desk s

end Script

end Reminders
