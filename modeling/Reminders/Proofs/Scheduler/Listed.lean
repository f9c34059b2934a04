import Reminders.Proofs.Scheduler.AtMostOnce
import Reminders.Proofs.Store.Scope

/-!
Who is listed.

A tick runs the users who have an enabled channel. They cannot be listed when an enabled channel has
no user's id where one should stand.

* `Store.mem_listUsers_iff`, `Store.exists_listUsers_iff`: who is listed, and when.
* `Store.withoutChannels`: a user without channels is not listed, and the others are as before.
-/

namespace Reminders.Store

variable {s : Store} {user other : Int} {users : List Int}

theorem mem_insertId_iff {id a : Int} {ids : List Int} : a ∈ insertId id ids ↔ a = id ∨ a ∈ ids := by
  refine ⟨mem_insertId, ?_⟩
  induction ids with
  | nil => simp [insertId]
  | cons i rest ih =>
    unfold insertId
    split
    · exact List.mem_cons.mpr
    · split
      · rename_i same
        rintro (rfl | mem)
        · rw [same]
          exact List.mem_cons_self
        · exact mem
      · rintro (rfl | mem)
        · exact List.mem_cons_of_mem _ (ih (.inl rfl))
        · rcases List.mem_cons.mp mem with rfl | mem
          · exact List.mem_cons_self
          · exact List.mem_cons_of_mem _ (ih (.inr mem))

theorem mem_foldl_insertId_iff {a : Int} {ids sorted : List Int} :
    a ∈ ids.foldl (fun sorted id => insertId id sorted) sorted ↔ a ∈ sorted ∨ a ∈ ids := by
  induction ids generalizing sorted with
  | nil => simp
  | cons id rest ih =>
    rw [List.foldl_cons, ih, mem_insertId_iff, List.mem_cons]
    tauto

/-- Users are listed from the users' cells of the enabled channels. -/
theorem exists_cells (s : Store) : ∃ cells : List Cell,
    (∀ c, c ∈ cells ↔ ∃ r ∈ s.enabledChannels, r.cell .userId = c) ∧
      s.listUsers = doing "Read users" (do
        let ids ← cells.mapM (Cell.readInt ⟨0, "user_id"⟩)
        return ids.foldl (fun sorted id => insertId id sorted) []) := by
  refine ⟨_, ?_, rfl⟩
  intro c
  rw [List.mem_append, or_iff_right_of_imp List.mem_of_mem_filter, List.mem_map]

/-- **Who is listed**: the users of the enabled channels. -/
theorem mem_listUsers_iff (listed : s.listUsers = .ok users) :
    user ∈ users ↔ ∃ r ∈ s.enabledChannels, (r.cell .userId).IsInt user := by
  obtain ⟨cells, mem_cells, same⟩ := s.exists_cells
  rw [same] at listed
  obtain ⟨ids, read, found⟩ := except_bind_eq_ok_iff.mp (doing_eq_ok_iff.mp listed)
  cases found
  have mem_ids : user ∈ ids ↔ .integer user ∈ cells := by
    have all := filterMap_of_mapM_eq_ok (g := some) read
    rw [List.filterMap_some] at all
    rw [all, List.mem_filterMap]
    constructor
    · rintro ⟨c, mem, value⟩
      cases c with
      | integer n => cases value; exact mem
      | null | real | text => cases value
    · exact fun mem => ⟨_, mem, rfl⟩
  rw [mem_foldl_insertId_iff, or_iff_right List.not_mem_nil, mem_ids, mem_cells]
  simp only [Cell.isInt_iff]

/-- The users can be listed when every enabled channel has a user's id. -/
theorem exists_listUsers_iff : (∃ users, s.listUsers = .ok users) ↔
    ∀ r ∈ s.enabledChannels, ∃ user, (r.cell .userId).IsInt user := by
  obtain ⟨cells, mem_cells, same⟩ := s.exists_cells
  rw [same]
  constructor
  · rintro ⟨users, listed⟩ r mem
    obtain ⟨ids, read, -⟩ := except_bind_eq_ok_iff.mp (doing_eq_ok_iff.mp listed)
    obtain ⟨n, value⟩ := exists_of_mapM_eq_ok read ((mem_cells _).mpr ⟨r, mem, rfl⟩)
    exact ⟨n, Cell.isInt_iff.mpr (Cell.readInt_eq_ok_iff.mp value)⟩
  · intro all
    obtain ⟨ids, read⟩ := exists_mapM_eq_ok (f := Cell.readInt ⟨0, "user_id"⟩) (l := cells) fun c mem => by
      obtain ⟨r, row, rfl⟩ := (mem_cells c).mp mem
      obtain ⟨user, owner⟩ := all r row
      exact ⟨user, Cell.readInt_eq_ok_iff.mpr (Cell.isInt_iff.mp owner)⟩
    exact ⟨_, doing_eq_ok_iff.mpr (except_bind_eq_ok_iff.mpr ⟨ids, read, rfl⟩)⟩

/-! ### A user without channels -/

/-- The store without the channels of a user. -/
def withoutChannels (s : Store) (user : Int) : Store :=
  { s with channels := s.channels.eraseWhere fun r => (r.cell .userId).IsInt user }

theorem mem_enabledChannels_withoutChannels_iff {r : Row ChannelColumn} :
    r ∈ (s.withoutChannels user).enabledChannels ↔
      r ∈ s.enabledChannels ∧ ¬(r.cell .userId).IsInt user := by
  simp only [enabledChannels, withoutChannels, Table.eraseWhere, List.mem_filter,
    Bool.not_eq_true', decide_eq_false_iff_not]
  exact and_right_comm

/-- The others are listed as before. -/
theorem mem_listUsers_withoutChannels_iff {users' : List Int} (listed : s.listUsers = .ok users)
    (listed' : (s.withoutChannels user).listUsers = .ok users') (different : other ≠ user) :
    other ∈ users' ↔ other ∈ users := by
  rw [mem_listUsers_iff listed, mem_listUsers_iff listed']
  simp only [mem_enabledChannels_withoutChannels_iff, Cell.isInt_iff]
  constructor
  · rintro ⟨r, ⟨mem, -⟩, owner⟩
    exact ⟨r, mem, owner⟩
  · rintro ⟨r, mem, owner⟩
    refine ⟨r, ⟨mem, fun same => different ?_⟩, owner⟩
    exact Cell.integer.inj (owner.symm.trans same)

/-- The users can be listed as before. -/
theorem exists_listUsers_withoutChannels_iff :
    (∃ users, (s.withoutChannels user).listUsers = .ok users) ↔ ∃ users, s.listUsers = .ok users := by
  rw [exists_listUsers_iff, exists_listUsers_iff]
  constructor
  · intro all r mem
    by_cases owner : (r.cell .userId).IsInt user
    · exact ⟨user, owner⟩
    · exact all r (mem_enabledChannels_withoutChannels_iff.mpr ⟨mem, owner⟩)
  · intro all r mem
    exact all r (mem_enabledChannels_withoutChannels_iff.mp mem).1

/-- The store is the same for the others. -/
theorem sameFor_withoutChannels (different : other ≠ user) :
    SameFor other s (s.withoutChannels user) where
  users := rfl
  policies := rfl
  channels := by
    simp only [channelRows, withoutChannels, Table.eraseWhere, List.filter_filter]
    apply List.filter_congr
    intro r _
    rw [← decide_not, ← Bool.decide_and]
    apply decide_eq_decide.mpr
    refine and_iff_left_of_imp fun theirs mine => different ?_
    rw [Cell.isInt_iff] at theirs mine
    exact Cell.integer.inj (theirs.symm.trans mine)
  subscriptions := rfl
  sent _ _ := Iff.rfl

end Reminders.Store
