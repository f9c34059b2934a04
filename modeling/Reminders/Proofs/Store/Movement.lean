import Mathlib.Data.List.Forall2
import Mathlib.Logic.Relation
import Reminders.Proofs.Calendar.WrittenDate
import Reminders.Proofs.Scheduler.Rollover
import Reminders.Proofs.Store.Query

/-!
Rows whose date moves.

* `Subscription.ofRow_movedTo`: the row of a moved subscription reads as the moved subscription.
* `Row.Moves`: a move of a row is to a later charge of what the row says before the move.
* `Row.Reached.eq_or`: what many moves of a row come to.
* `Store.Moves.forall₂`: a move of the store moves one row.
-/

namespace Reminders

/-- The row with another date for the next charge. -/
def Row.movedTo (r : Row SubscriptionColumn) (d : Date) : Row SubscriptionColumn :=
  r.set .nextOccurrence (.text d.toText)

namespace Row

variable {r r' r'' : Row SubscriptionColumn} {d e : Date}

@[simp] theorem movedTo_id (r : Row SubscriptionColumn) (d : Date) : (r.movedTo d).id = r.id := rfl

/-- A move changes one column. -/
theorem movedTo_cell (d : Date) {k : SubscriptionColumn} (other : k ≠ .nextOccurrence) :
    (r.movedTo d).cell k = r.cell k :=
  if_neg other

@[simp] theorem movedTo_movedTo (r : Row SubscriptionColumn) (d e : Date) :
    (r.movedTo d).movedTo e = r.movedTo e := by
  refine congrArg (Row.mk r.id) (funext fun k => ?_)
  by_cases date : k = .nextOccurrence
  · rw [if_pos date, if_pos date]
  · rw [if_neg date, if_neg date]
    exact if_neg date

end Row

/-- **The row of a moved subscription reads as the moved subscription.** -/
theorem Subscription.ofRow_movedTo {r : Row SubscriptionColumn} {s : Subscription}
    (h : Subscription.ofRow r = .ok (.ok s)) (d : Date) :
    Subscription.ofRow (r.movedTo d) = .ok (.ok (s.movedTo d)) := by
  have readable : (some d.toText).mapM readDate = .ok (some d) := by
    simp only [Option.mapM_some, readDate, Date.parse_toText]
    rfl
  unfold Subscription.ofRow at h ⊢
  obtain ⟨tag, billing, h⟩ := except_bind_eq_ok_iff.mp h
  obtain ⟨date, -, h⟩ := except_bind_eq_ok_iff.mp h
  refine except_bind_eq_ok_iff.mpr ⟨tag, billing, ?_⟩
  refine except_bind_eq_ok_iff.mpr ⟨some d.toText, rfl, ?_⟩
  split at h
  · cases h
  split at h
  · cases h
  simp only [readable]
  -- The other columns are read as before.
  iterate 17
    obtain ⟨_, read, h⟩ := except_bind_eq_ok_iff.mp h
    refine except_bind_eq_ok_iff.mpr ⟨_, read, ?_⟩
  cases h
  rfl

namespace Row

variable {r r' r'' : Row SubscriptionColumn} {sub : Subscription} {d e : Date}

/-- The date of the row is replaced by a later charge of the subscription that the row holds before
the move. -/
def Moves (r r' : Row SubscriptionColumn) : Prop :=
  ∃ sub stored d, Subscription.ofRow r = .ok (.ok sub) ∧ sub.nextOccurrence = some stored ∧
    stored < d ∧ sub.Charges d ∧ r' = r.movedTo d

/-- Some moves, one after the other. -/
abbrev Reached : Row SubscriptionColumn → Row SubscriptionColumn → Prop :=
  Relation.ReflTransGen Moves

/-- **What many moves come to**: nothing, or a later date for a subscription with a schedule, and
no other column has changed. -/
theorem Reached.eq_or (reached : Reached r r') :
    r' = r ∨ ∃ sub stored d, Subscription.ofRow r = .ok (.ok sub) ∧ sub.HasValidSchedule ∧
      sub.nextOccurrence = some stored ∧ stored < d ∧ r' = r.movedTo d ∧
        Subscription.ofRow r' = .ok (.ok (sub.movedTo d)) := by
  induction reached with
  | refl => exact .inl rfl
  | tail _ move ih =>
    obtain ⟨sub', stored', d', read', dated', later', charge', rfl⟩ := move
    rcases ih with rfl | ⟨sub, stored, d, read, valid, dated, later, rfl, read₁⟩
    · exact .inr ⟨sub', stored', d', read', charge'.1, dated', later', rfl,
        Subscription.ofRow_movedTo read' d'⟩
    · cases Except.ok.inj (Except.ok.inj (read'.symm.trans read₁))
      cases dated'
      refine .inr ⟨sub, stored, d', read, valid, dated, Int.lt_trans later later', ?_, ?_⟩
      · rw [movedTo_movedTo]
      · rw [movedTo_movedTo]
        exact Subscription.ofRow_movedTo read d'

theorem Reached.id_eq (reached : Reached r r') : r'.id = r.id := by
  rcases reached.eq_or with rfl | ⟨-, -, d, -, -, -, -, rfl, -⟩
  · rfl
  · rfl

/-- **Moves of a subscription whose intervals are counted by months drift.** -/
theorem Reached.drifts {step : Nat} {a : Date} (reached : Reached r r')
    (read : Subscription.ofRow r = .ok (.ok sub)) (steps : sub.StepsByMonths step)
    (stored : sub.nextOccurrence = some a) :
    ∃ d, Subscription.ofRow r' = .ok (.ok (sub.movedTo d)) ∧ a.Drifts step d := by
  induction reached with
  | refl => exact ⟨a, by rw [Subscription.movedTo_self stored]; exact read, .refl a step⟩
  | tail _ move ih =>
    obtain ⟨d, read₁, drifts⟩ := ih
    obtain ⟨sub', stored', d', read', -, -, charge, rfl⟩ := move
    cases Except.ok.inj (Except.ok.inj (read'.symm.trans read₁))
    have more : d.Drifts step d' := Subscription.drifts_of_charges (steps.movedTo d) rfl charge
    exact ⟨d', Subscription.ofRow_movedTo read' d', drifts.trans more⟩

end Row

namespace Store

/-- The subscriptions stay as they are, or the date of one of them moves. -/
def Moves (s s' : Store) : Prop :=
  s'.subscriptions = s.subscriptions ∨
    ∃ r ∈ s.subscriptions.rows, ∃ d, r.Moves (r.movedTo d) ∧
      s'.subscriptions = s.subscriptions.set r.id .nextOccurrence (.text d.toText)

theorem Moves.refl (s : Store) : s.Moves s := .inl rfl

/-- A move of the store moves one row and leaves the others. -/
theorem Moves.forall₂ {s s' : Store} (moves : s.Moves s') :
    List.Forall₂ Row.Reached s.subscriptions.rows s'.subscriptions.rows := by
  rcases moves with same | ⟨r, mem, d, move, same⟩
  · rw [same]
    exact List.forall₂_same.mpr fun _ _ => .refl
  · rw [same, Table.set, Table.modify, List.forall₂_map_right_iff, List.forall₂_same]
    intro r' mem'
    split
    · rename_i same
      cases Table.eq_of_id_eq mem' mem same
      exact .single move
    · exact .refl

end Store

end Reminders
