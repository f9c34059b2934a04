import Mathlib.Order.Defs.Unbundled
import Reminders.Proofs.Script.Run
import Reminders.Proofs.Store.Query

/-!
One user among others.

A subscription belongs to one user as long as it exists, and what a reminder is about is known by its
subscription. So whatever others do for their own subscriptions, the log keeps silent about those of
a user.

* `Store.SameLog`: what a use of the store leaves when it writes nothing into the log.
* `Store.Undisturbed`: what others leave of what a user relies on.
* `Store.undisturbed_logged`: an entry about a subscription of another user.
-/

namespace Reminders.Store

variable {s s' : Store} {user other id : Int}

/-- The subscription belongs to the user. -/
def Owns (s : Store) (user id : Int) : Prop := (id, Cell.integer user) ∈ s.owners

theorem owns_iff :
    s.Owns user id ↔ ∃ r ∈ s.subscriptions.rows, r.id = id ∧ (r.cell .userId).IsInt user := by
  simp only [Owns, owners, List.mem_map, Prod.mk.injEq, Cell.isInt_iff]

/-- A subscription belongs to one user. -/
theorem Owns.eq (owns : s.Owns user id) (owns' : s.Owns other id) : user = other := by
  obtain ⟨r, mem, rfl, holds⟩ := owns_iff.mp owns
  obtain ⟨r', mem', same, holds'⟩ := owns_iff.mp owns'
  cases Table.eq_of_id_eq mem' mem same
  rw [Cell.isInt_iff] at holds holds'
  exact Cell.integer.inj (holds.symm.trans holds')

/-! ### Nothing is logged -/

/-- The log is the same, and every subscription still belongs to its user. -/
structure SameLog (s s' : Store) : Prop where
  logs : s'.logs = s.logs
  owners : s.owners ⊆ s'.owners

namespace SameLog

theorem refl (s : Store) : s.SameLog s := ⟨rfl, List.Subset.refl _⟩

theorem trans {a b c : Store} (first : a.SameLog b) (second : b.SameLog c) : a.SameLog c :=
  ⟨second.logs.trans first.logs, List.Subset.trans first.owners second.owners⟩

theorem sentCount (same : s.SameLog s') (key : ReminderKey) :
    s'.sentCount key = s.sentCount key := by
  rw [Store.sentCount, Store.sentCount, same.logs]

theorem wasSent_iff (same : s.SameLog s') {key : ReminderKey} : s'.WasSent key ↔ s.WasSent key := by
  rw [WasSent, WasSent, same.logs]

end SameLog

theorem SameButDates.sameLog (same : s.SameButDates s') : s.SameLog s' :=
  ⟨same.logs, same.owners ▸ List.Subset.refl _⟩

/-! ### What others leave -/

/-- Every subscription still belongs to its user, and of the reminders about those of one user none
has been sent since. -/
structure Undisturbed (user : Int) (s s' : Store) : Prop where
  owners : s.owners ⊆ s'.owners
  unsent : ∀ key, s.Owns user key.subscriptionId → ¬s.WasSent key → ¬s'.WasSent key

theorem SameLog.undisturbed (same : s.SameLog s') (user : Int) : Undisturbed user s s' :=
  ⟨same.owners, fun _ _ unsent sent => unsent (same.wasSent_iff.mp sent)⟩

theorem Undisturbed.owns (others : Undisturbed other s s') (before : s.Owns user id) :
    s'.Owns user id := others.owners before

theorem Undisturbed.trans {a b c : Store} (first : Undisturbed user a b)
    (second : Undisturbed user b c) : Undisturbed user a c where
  owners := List.Subset.trans first.owners second.owners
  unsent key owns unsent := second.unsent key (first.owners owns) (first.unsent key owns unsent)

instance : IsPreorder Store (Undisturbed user) where
  refl s := (SameLog.refl s).undisturbed user
  trans _ _ _ := .trans

/-- An entry about a subscription of another user. -/
theorem undisturbed_logged {e : LogEntry} (owns : s.Owns other e.subscriptionId)
    (different : other ≠ user) : Undisturbed user s (s.logged e) where
  owners := List.Subset.refl _
  unsent key mine unsent sent := by
    rcases wasSent_logged.mp sent with sent | ⟨-, rfl⟩
    · exact unsent sent
    · exact different (owns.eq mine)

theorem undisturbed_of_answer {call : StoreCall} {reply : call.Reply}
    (allowed : call.ReadsOrMoves) (answered : s.answer call = .ok (reply, s')) :
    Undisturbed user s s' :=
  (sameButDates_of_answer allowed answered).sameLog.undisturbed user

end Reminders.Store
