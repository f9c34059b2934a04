import Reminders.Proofs.Delivery.Share

/-!
What the runs of a tick make of the store.

A run moves dates of its user and adds rows to the log, one at a time. Each row of the log says whose
it is, so what has been added can be told apart by users.

* `Store.Grown`, `Store.Worked`: dates have moved and the log has grown.
* `UserTask.Confined.worked`: a step of a run does no more to the store.
* `UserTask.Confined.others`: a step of a run is nothing to the other users.
-/

namespace Reminders

/-- A row keeps its owner, and only the row of a user moves. -/
theorem Row.Reached.owner {r r' : Row SubscriptionColumn} (reached : Row.Reached r r') :
    r'.cell .userId = r.cell .userId ∧ (r' = r ∨ ∃ user, (r.cell .userId).IsInt user) := by
  rcases reached.eq_or with rfl | ⟨sub, -, d, read, -, -, -, rfl, -⟩
  · exact ⟨rfl, .inl rfl⟩
  · refine ⟨Row.movedTo_cell d nofun, .inr ⟨sub.userId, ?_⟩⟩
    exact Cell.isInt_iff.mpr (Subscription.ofRow_eq_ok_ok read).2.1

/-- Dates of subscriptions have moved, and the log has grown by rows of users. -/
structure Store.Grown (s s' : Store) : Prop where
  rows : List.Forall₂ Row.Reached s.subscriptions.rows s'.subscriptions.rows
  lastId : s'.subscriptions.lastId = s.subscriptions.lastId
  log : ∃ rows, s'.logs.rows = s.logs.rows ++ rows ∧
    ∀ r ∈ rows, ∃ user, (r.cell .userId).IsInt user

/-- Dates of subscriptions have moved and the log has grown. The other tables are the same. -/
structure Store.Worked (s s' : Store) : Prop where
  grown : s.Grown s'
  users : s'.users = s.users
  policies : s'.policies = s.policies
  channels : s'.channels = s.channels

namespace Store

variable {s s' s'' : Store} {user : Int}

theorem Moves.lastId (moves : s.Moves s') : s'.subscriptions.lastId = s.subscriptions.lastId := by
  rcases moves with same | ⟨r, -, d, -, same⟩
  · rw [same]
  · rw [same]
    rfl

namespace Grown

theorem refl (s : Store) : s.Grown s :=
  ⟨List.forall₂_same.mpr fun _ _ => .refl, rfl, [], (List.append_nil _).symm, nofun⟩

theorem trans (first : s.Grown s') (second : s'.Grown s'') : s.Grown s'' := by
  refine ⟨forall₂_trans .trans first.rows second.rows, second.lastId.trans first.lastId, ?_⟩
  obtain ⟨rows, log, theirs⟩ := first.log
  obtain ⟨more, log', theirs'⟩ := second.log
  refine ⟨rows ++ more, by rw [log', log, List.append_assoc], ?_⟩
  intro r mem
  exact (List.mem_append.mp mem).elim (theirs r) (theirs' r)

/-- What the log says about a user, before and since. -/
theorem logFor_eq (grown : s.Grown s') (user : Int) : s'.logFor user =
    s.logFor user ++ (s.logSince s').filter fun cells => (cells .userId).IsInt user := by
  obtain ⟨rows, log, -⟩ := grown.log
  rw [logFor, logFor, logSince, log, List.drop_left, List.map_append, List.filter_append]

/-- Every new row of the log is a user's. -/
theorem exists_user (grown : s.Grown s') {cells : LogColumn → Cell} (mem : cells ∈ s.logSince s') :
    ∃ user, (cells .userId).IsInt user := by
  obtain ⟨rows, log, theirs⟩ := grown.log
  rw [logSince, log, List.drop_left] at mem
  obtain ⟨r, row, rfl⟩ := List.mem_map.mp mem
  exact theirs r row

end Grown

namespace Worked

theorem refl (s : Store) : s.Worked s := ⟨.refl s, rfl, rfl, rfl⟩

theorem trans (first : s.Worked s') (second : s'.Worked s'') : s.Worked s'' where
  grown := first.grown.trans second.grown
  users := second.users.trans first.users
  policies := second.policies.trans first.policies
  channels := second.channels.trans first.channels

end Worked

/-- A call that keeps to the part of a user moves one date at most. -/
theorem worked_of_answer {call : StoreCall} {reply : call.Reply} (permits : s.Permits user call)
    (answered : s.answer call = .ok (reply, s')) : s.Worked s' := by
  have moves := moves_of_answer permits answered
  have same := sameButDates_of_answer permits.readsOrMoves answered
  exact ⟨⟨moves.forall₂, moves.lastId, [], by rw [same.logs, List.append_nil], nofun⟩, same.users,
    same.policies, same.channels⟩

/-- The log grows by one row of a user. -/
theorem worked_logged (s : Store) (e : LogEntry) : s.Worked (s.logged e) := by
  refine ⟨⟨List.forall₂_same.mpr fun _ _ => .refl, rfl, _, s.logged_rows e, ?_⟩, rfl, rfl, rfl⟩
  intro r mem
  rw [List.mem_singleton.mp mem]
  exact ⟨e.userId, Cell.isInt_iff.mpr rfl⟩

end Store

namespace UserTask

variable {e : Engine} {t : Turn} {user other : Int} {task task' : UserTask} {w w' : World}

/-- **A step of a run** moves one date at most, and adds one row to the log at most. -/
theorem Confined.worked (confined : task.Confined user w.store)
    (stepped : task.step e t w = some (task', w')) : w.store.Worked w'.store := by
  cases step_eq_some_iff.mp stepped with
  | answer served =>
    exact Store.worked_of_answer confined.1 (Store.answer_eq_of_serve_eq_ok served)
  | refuse => exact .refl _
  | fail => exact .refl _
  | dispatch => exact .refl _
  | deliver busy move =>
    rcases move.atHand.2 with same | ⟨job, -, outcome, same⟩
    · simp only at same
      rw [same]
      exact .refl _
    · simp only at same
      rw [same]
      exact Store.worked_logged ..
  | report => exact .refl _

/-- **A step of a run is nothing to the other users.** -/
theorem Confined.others (confined : task.Confined user w.store)
    (stepped : task.step e t w = some (task', w')) (different : other ≠ user) :
    World.SameFor other w w' := by
  cases step_eq_some_iff.mp stepped with
  | answer served =>
    have answered := Store.answer_eq_of_serve_eq_ok served
    have logs := (Store.sameButDates_of_answer confined.1.readsOrMoves answered).logs
    refine ⟨Store.sameFor_of_answer confined.1 answered different, rfl, ?_⟩
    rw [Store.logFor, Store.logFor, logs]
  | refuse => exact .refl other _
  | fail => exact .refl other _
  | dispatch => exact .refl other _
  | deliver busy move =>
    refine move.others ?_ different
    exact confined
  | report => exact .refl other _

end UserTask

end Reminders
