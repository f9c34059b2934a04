import Mathlib.Data.Set.Card
import Reminders.Proofs.Scheduler.Plan

/-!
Which dates have changed.

What became of the subscriptions can be told from two stores, one before and one after: by the rows
whose date is another one. For the moves of a plan these are the rows that were moved, so there are
as many of them as there are moves.

* `Store.changedDates`: the subscriptions whose date is another one in a second store.
* `Row.date_broughtUpTo_ne_iff`: a rollover that moves a row changes its date.
* `Store.rows_carriedOut`: what some moves of a plan leave of the rows.
* `Store.changedDates_carriedOut`, `Store.ncard_changedDates_carriedOut`
-/

namespace Reminders

open Store

/-! ### Rows -/

namespace Row

variable {r : Row SubscriptionColumn} {d today : Date} {user : Int}

/-- A row that has the date already is not changed by moving it there. -/
theorem movedTo_eq_self (same : (r.movedTo d).cell .nextOccurrence = r.cell .nextOccurrence) :
    r.movedTo d = r := by
  refine congrArg (Row.mk r.id) (funext fun k => ?_)
  by_cases date : k = .nextOccurrence
  · rw [date]
    exact same
  · exact r.movedTo_cell d date

/-- **A rollover changes the date of a row** exactly when it moves the row. -/
theorem date_broughtUpTo_ne_iff :
    (r.broughtUpTo user today).cell .nextOccurrence ≠ r.cell .nextOccurrence ↔
      ∃ m, r.move? user today = some m := by
  constructor
  · intro changed
    rcases r.broughtUpTo_eq_or user today with
      same | ⟨sub, a, d, read, overdue, dated, next, less, -⟩
    · exact absurd (congrArg (·.cell .nextOccurrence) same) changed
    · have rolls := Subscription.rollover?_eq_some_iff.mpr ⟨a, dated, next, less⟩
      exact ⟨_, move?_eq_some_iff.mpr ⟨overdue, sub, d, read, rolls, rfl⟩⟩
  · rintro ⟨m, moves⟩ same
    obtain ⟨overdue, sub, d, read, rolls, -⟩ := move?_eq_some_iff.mp moves
    rw [broughtUpTo, if_pos overdue, rolledOver_of_some read rolls] at same
    -- The row would already stand at the date that it moves to, which is a later one.
    have moved := Subscription.ofRow_movedTo read d
    rw [movedTo_eq_self same, read] at moved
    have stands : sub.nextOccurrence = some d :=
      congrArg (·.nextOccurrence) (Except.ok.inj (Except.ok.inj moved))
    obtain ⟨a, dated, -, less⟩ := Subscription.rollover?_eq_some_iff.mp rolls
    cases dated.symm.trans stands
    exact Int.lt_irrefl _ less

end Row

/-! ### Stores -/

namespace Store

variable {s t : Store} {user id : Int} {today : Date} {moves : List (Int × Date)}

/-- The subscriptions whose date is another one in the second store. -/
def changedDates (s t : Store) : Set Int :=
  {id | ∃ r ∈ s.subscriptions.rows, ∃ r' ∈ t.subscriptions.rows, r.id = id ∧ r'.id = id ∧
    r'.cell .nextOccurrence ≠ r.cell .nextOccurrence}

theorem finite_changedDates (s t : Store) : (s.changedDates t).Finite := by
  refine (List.finite_toSet (s.subscriptions.rows.map (·.id))).subset ?_
  rintro _ ⟨r, mem, -, -, rfl, -⟩
  exact List.mem_map.mpr ⟨r, mem, rfl⟩

/-- Nothing has changed from a store to itself. -/
theorem changedDates_self (s : Store) : s.changedDates s = ∅ := by
  refine Set.eq_empty_iff_forall_notMem.mpr ?_
  rintro _ ⟨r, mem, r', mem', rfl, same, changed⟩
  cases Table.eq_of_id_eq mem' mem same
  exact changed rfl

/-- A date whose text is another one has changed. -/
theorem mem_changedDates_of_isText {a b : String}
    (before : ∃ r ∈ s.subscriptions.rows, r.id = id ∧ (r.cell .nextOccurrence).IsText a)
    (after : ∃ r ∈ t.subscriptions.rows, r.id = id ∧ (r.cell .nextOccurrence).IsText b)
    (different : a ≠ b) : id ∈ s.changedDates t := by
  obtain ⟨r, mem, same, text⟩ := before
  obtain ⟨r', mem', same', text'⟩ := after
  refine ⟨r, mem, r', mem', same, same', fun unchanged => different ?_⟩
  rw [Cell.isText_iff.mp text, Cell.isText_iff.mp text'] at unchanged
  exact (Cell.text.inj unchanged).symm

/-- What has changed when every row was replaced by one of the same id. -/
theorem mem_changedDates_iff {f : Row SubscriptionColumn → Row SubscriptionColumn}
    (ids : ∀ r, (f r).id = r.id) (rows : t.subscriptions.rows = s.subscriptions.rows.map f) :
    id ∈ s.changedDates t ↔ ∃ r ∈ s.subscriptions.rows, r.id = id ∧
      (f r).cell .nextOccurrence ≠ r.cell .nextOccurrence := by
  constructor
  · rintro ⟨r, mem, r', mem', rfl, same, changed⟩
    rw [rows] at mem'
    obtain ⟨r₀, mem₀, rfl⟩ := List.mem_map.mp mem'
    cases Table.eq_of_id_eq mem₀ mem ((ids r₀).symm.trans same)
    exact ⟨r, mem, rfl, changed⟩
  · rintro ⟨r, mem, rfl, changed⟩
    exact ⟨r, mem, f r, rows ▸ List.mem_map.mpr ⟨r, mem, rfl⟩, rfl, ids r, changed⟩

/-! ### Moves of a plan -/

/-- The rows that the plan moves. -/
theorem mem_ids_plan_iff {r : Row SubscriptionColumn} (mem : r ∈ s.subscriptions.rows) :
    r.id ∈ (s.plan user today).map Prod.fst ↔ ∃ m, r.move? user today = some m := by
  constructor
  · intro planned
    obtain ⟨m, planned, same⟩ := List.mem_map.mp planned
    obtain ⟨r', mem', moves⟩ := List.mem_filterMap.mp planned
    rw [Row.id_of_move? moves] at same
    cases Table.eq_of_id_eq mem' mem same
    exact ⟨m, moves⟩
  · rintro ⟨m, moves⟩
    exact List.mem_map.mpr ⟨m, List.mem_filterMap.mpr ⟨r, mem, moves⟩, Row.id_of_move? moves⟩

/-- A row that the plan does not move is up to date. -/
theorem broughtUpTo_eq_self {r : Row SubscriptionColumn} (mem : r ∈ s.subscriptions.rows)
    (absent : r.id ∉ (s.plan user today).map Prod.fst) : r.broughtUpTo user today = r := by
  rcases r.broughtUpTo_eq_or user today with same | ⟨sub, a, d, read, overdue, dated, next, less, -⟩
  · exact same
  · have rolls := Subscription.rollover?_eq_some_iff.mpr ⟨a, dated, next, less⟩
    exact absurd ((mem_ids_plan_iff mem).mpr
      ⟨_, Row.move?_eq_some_iff.mpr ⟨overdue, sub, d, read, rolls, rfl⟩⟩) absent

/-- **What some moves of the plan leave of the rows**: those that were moved are where a rollover
brings them. -/
theorem rows_carriedOut (planned : ∀ m ∈ moves, m ∈ s.plan user today) :
    (s.carriedOut moves).subscriptions.rows = s.subscriptions.rows.map fun r =>
      if r.id ∈ moves.map Prod.fst then r.broughtUpTo user today else r := by
  induction moves using List.reverseRecOn with
  | nil => exact (List.map_id' _).symm
  | append_singleton before m ih =>
    obtain ⟨r₀, mem₀, overdue, sub, d, read, rolls, rfl⟩ :=
      mem_plan_iff.mp (planned m (List.mem_append_right _ List.mem_cons_self))
    have moved : r₀.broughtUpTo user today = r₀.movedTo d := by
      rw [Row.broughtUpTo, if_pos overdue, Row.rolledOver_of_some read rolls]
    have last : (s.carriedOut (before ++ [(r₀.id, d)])).subscriptions.rows =
        (s.carriedOut before).subscriptions.rows.map fun r =>
          if r.id = r₀.id then r.movedTo d else r := by
      rw [carriedOut_append]
      rfl
    rw [last, ih fun m mem => planned m (List.mem_append_left _ mem), List.map_map]
    refine List.map_congr_left fun r mem => ?_
    simp only [Function.comp_apply, List.map_append, List.map_cons, List.map_nil, List.mem_append,
      List.mem_singleton]
    by_cases here : r.id = r₀.id
    · cases Table.eq_of_id_eq mem mem₀ here
      simp only [moved, or_true, if_true]
      split
      · rw [if_pos (Row.movedTo_id r₀ d), Row.movedTo_movedTo]
      · rfl
    · simp only [here, or_false]
      split
      · rw [if_neg (by rwa [Row.broughtUpTo_id])]
      · rfl

/-- What the whole plan leaves of the rows. -/
theorem rows_carriedOut_plan (s : Store) (user : Int) (today : Date) :
    (s.carriedOut (s.plan user today)).subscriptions.rows =
      s.subscriptions.rows.map (Row.broughtUpTo user today) := by
  rw [rows_carriedOut fun _ mem => mem]
  refine List.map_congr_left fun r mem => ?_
  split
  · rfl
  · rename_i absent
    exact (broughtUpTo_eq_self mem absent).symm

/-- **Moves of the plan change the dates of the rows that they move.** -/
theorem changedDates_carriedOut (planned : ∀ m ∈ moves, m ∈ s.plan user today) :
    s.changedDates (s.carriedOut moves) = {id | id ∈ moves.map Prod.fst} := by
  ext id
  rw [mem_changedDates_iff (fun r => ?_) (rows_carriedOut planned), Set.mem_ofPred_eq]
  · constructor
    · rintro ⟨r, mem, rfl, changed⟩
      by_contra absent
      rw [if_neg absent] at changed
      exact changed rfl
    · intro moved
      obtain ⟨m, mem, rfl⟩ := List.mem_map.mp moved
      obtain ⟨r, known, move⟩ := List.mem_filterMap.mp (planned m mem)
      have same := Row.id_of_move? move
      refine ⟨r, known, same.symm, ?_⟩
      rw [if_pos (same ▸ moved)]
      exact Row.date_broughtUpTo_ne_iff.mpr ⟨m, move⟩
  · split
    · exact r.broughtUpTo_id user today
    · rfl

/-- What has changed depends on the rows of the second store only. -/
theorem changedDates_congr {t' : Store} (rows : t.subscriptions.rows = t'.subscriptions.rows) :
    s.changedDates t = s.changedDates t' := by
  rw [changedDates, changedDates, rows]

/-- As many dates change as there are moves. -/
theorem ncard_changedDates_carriedOut (planned : moves.Sublist (s.plan user today)) :
    (s.changedDates (s.carriedOut moves)).ncard = moves.length := by
  have distinct : (moves.map Prod.fst).Nodup :=
    (s.nodup_plan user today).sublist (planned.map Prod.fst)
  rw [changedDates_carriedOut fun m mem => planned.subset mem, ← List.coe_toFinset,
    Set.ncard_coe_finset, List.toFinset_card_of_nodup distinct, List.length_map]

end Store

end Reminders
