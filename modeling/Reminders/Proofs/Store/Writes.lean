import Reminders.Proofs.Store.Query

/-!
What writes come to.

A write succeeds when what it relies on is there, and then changes one table.

* `Store.createUser_eq_ok_iff`, `Store.insertSubscription_eq_ok_iff`, `Store.insertChannel_eq_ok_iff`,
  `Store.upsertPolicy_eq_ok_iff`
* `Store.find?_upsertPolicy`: the row of one user is replaced, and the others stay.
-/

namespace Reminders

namespace Table

variable {t : Table κ} {id : Int} {cells : κ → Cell}

theorem id_eq_of_find? {r : Row κ} (found : t.find? id = some r) : r.id = id := by
  unfold find? at found
  simpa using List.find?_some found

/-- The row with the id takes the cells, and the others are found as before. -/
theorem find?_modify (known : t.find? id ≠ none) (other : Int) :
    (t.modify id fun _ => cells).find? other =
      if other = id then some ⟨id, cells⟩ else t.find? other := by
  let replace (r : Row κ) : Row κ := if r.id = id then { r with cell := cells } else r
  have kept (r : Row κ) : (replace r).id = r.id := by
    unfold replace
    split <;> rfl
  have found : (t.modify id fun _ => cells).find? other = (t.find? other).map replace := by
    change (t.rows.map replace).find? (·.id = other) = (t.rows.find? (·.id = other)).map replace
    rw [List.find?_map]
    simp only [Function.comp_def, kept]
  rw [found]
  split
  · rename_i here
    obtain ⟨r, present⟩ := Option.ne_none_iff_exists'.mp known
    have same := id_eq_of_find? present
    rw [here, present, Option.map_some]
    simp [replace, same]
  · rename_i elsewhere
    cases present : t.find? other with
    | none => rfl
    | some r =>
      have apart : r.id ≠ id := by rwa [id_eq_of_find? present]
      simp [replace, apart]

theorem find?_insertRow (row : Row κ) (rows : List (Row κ)) (other : Int) :
    (insertRow row rows).find? (·.id = other) =
      if other = row.id then some row else rows.find? (·.id = other) := by
  induction rows with
  | nil => grind [insertRow]
  | cons r rest ih => grind [insertRow]

/-- The row comes into its place, and the others are found as before. -/
theorem find?_insertAt (t : Table κ) (id : Int) (cells : κ → Cell) (other : Int) :
    (t.insertAt id cells).find? other =
      if other = id then some ⟨id, cells⟩ else t.find? other :=
  find?_insertRow ⟨id, cells⟩ t.rows other

end Table

namespace Store

variable {s s' : Store} {id user : Int}

/-- A write is answered with the store that it leaves. -/
theorem eq_ok_of_map_unit_eq_ok {x : Except ε Store} {u : Unit}
    (answered : x.map ((), ·) = .ok (u, s')) : x = .ok s' := by
  obtain ⟨after, written, same⟩ := except_map_eq_ok_iff.mp answered
  cases same
  exact written

theorem checkUser_eq_ok_iff {u : Unit} : s.checkUser user = .ok u ↔ s.HasUser user := by
  unfold checkUser
  split
  · exact ⟨fun _ => ‹_›, fun _ => rfl⟩
  · exact ⟨nofun, fun known => absurd known ‹_›⟩

theorem createUser_eq_ok_iff {email : String} :
    s.createUser email = .ok (id, s') ↔
      (∀ r ∈ s.users.rows, r.cell .email ≠ .text email) ∧ id = s.users.nextId ∧
        s' = { s with users := s.users.insert fun | .email => .text email } := by
  have unused : s.usersWithEmail (.text email) = [] ↔
      ∀ r ∈ s.users.rows, r.cell .email ≠ .text email := by
    simp only [usersWithEmail, List.filter_eq_nil_iff, decide_eq_true_eq, Cell.isText_iff]
  rw [← unused]
  unfold createUser
  by_cases free : s.usersWithEmail (.text email) = []
  · rw [if_neg (not_not.mpr free)]
    constructor
    · intro created
      cases created
      exact ⟨free, rfl, rfl⟩
    · rintro ⟨-, rfl, rfl⟩
      rfl
  · rw [if_pos free]
    constructor
    · intro created
      cases created
    · intro h
      exact absurd h.1 free

theorem insertSubscription_eq_ok_iff {sub : Subscription} :
    s.insertSubscription sub = .ok (id, s') ↔
      (Table.checkRequired (Table.stored sub.toCells) = .ok () ∧ s.HasUser sub.userId) ∧
        id = s.subscriptions.nextId ∧
        s' = { s with subscriptions := s.subscriptions.insert (Table.stored sub.toCells) } := by
  unfold insertSubscription
  rw [doing_eq_ok_iff, except_bind_eq_ok_iff]
  constructor
  · rintro ⟨_, accepted, inserted⟩
    obtain ⟨_, checked, inserted⟩ := except_bind_eq_ok_iff.mp inserted
    cases inserted
    exact ⟨⟨accepted, checkUser_eq_ok_iff.mp checked⟩, rfl, rfl⟩
  · rintro ⟨⟨accepted, known⟩, rfl, rfl⟩
    refine ⟨(), accepted, except_bind_eq_ok_iff.mpr ⟨(), ?_, rfl⟩⟩
    exact checkUser_eq_ok_iff.mpr known

theorem insertChannel_eq_ok_iff {type : ChannelType} {config : Json} {template : Option String} :
    s.insertChannel user type config template = .ok (id, s') ↔
      s.HasUser user ∧ id = s.channels.nextId ∧
        s' = { s with
          channels := s.channels.insert (Channel.toCells user type config template) } := by
  unfold insertChannel
  rw [doing_eq_ok_iff, except_bind_eq_ok_iff]
  constructor
  · rintro ⟨_, checked, inserted⟩
    cases inserted
    exact ⟨checkUser_eq_ok_iff.mp checked, rfl, rfl⟩
  · rintro ⟨known, rfl, rfl⟩
    exact ⟨(), checkUser_eq_ok_iff.mpr known, rfl⟩

/-- The policy that there is takes the new values; one that there is not needs the user. -/
theorem upsertPolicy_eq_ok_iff {p : Policy} :
    s.upsertPolicy p = .ok s' ↔
      (s.policies.find? p.userId ≠ none ∧
        s' = { s with policies := s.policies.modify p.userId fun _ => p.toCells }) ∨
      (s.policies.find? p.userId = none ∧ s.HasUser p.userId ∧
        s' = { s with policies := s.policies.insertAt p.userId p.toCells }) := by
  unfold upsertPolicy
  rw [doing_eq_ok_iff]
  cases found : s.policies.find? p.userId with
  | some r =>
    constructor
    · intro written
      cases written
      exact .inl ⟨nofun, rfl⟩
    · rintro (⟨-, rfl⟩ | ⟨⟨⟩, -⟩)
      rfl
  | none =>
    refine except_bind_eq_ok_iff.trans ?_
    constructor
    · rintro ⟨_, checked, written⟩
      cases written
      exact .inr ⟨rfl, checkUser_eq_ok_iff.mp checked, rfl⟩
    · rintro (⟨absent, -⟩ | ⟨-, known, rfl⟩)
      · exact absurd rfl absent
      · exact ⟨(), checkUser_eq_ok_iff.mpr known, rfl⟩

theorem exists_upsertPolicy {p : Policy} (known : s.HasUser p.userId) :
    ∃ s', s.upsertPolicy p = .ok s' := by
  simp only [upsertPolicy_eq_ok_iff]
  by_cases absent : s.policies.find? p.userId = none
  · exact ⟨_, .inr ⟨absent, known, rfl⟩⟩
  · exact ⟨_, .inl ⟨absent, rfl⟩⟩

/-- A policy that there is not is refused when the user does not exist. -/
theorem upsertPolicy_of_not_hasUser {p : Policy} (absent : s.policies.find? p.userId = none)
    (unknown : ¬s.HasUser p.userId) :
    s.upsertPolicy p = .error (.fault "Upsert policy" .foreignKey) := by
  unfold upsertPolicy checkUser
  rw [absent, if_neg unknown]
  rfl

/-- **The row of one user is replaced**, and the others stay. -/
theorem find?_upsertPolicy {p : Policy} (written : s.upsertPolicy p = .ok s') :
    s' = { s with policies := s'.policies } ∧ ∀ other, s'.policies.find? other =
      if other = p.userId then some ⟨p.userId, p.toCells⟩ else s.policies.find? other := by
  rcases upsertPolicy_eq_ok_iff.mp written with ⟨known, rfl⟩ | ⟨-, -, rfl⟩
  · exact ⟨rfl, Table.find?_modify known⟩
  · exact ⟨rfl, Table.find?_insertAt s.policies p.userId p.toCells⟩

end Store

end Reminders
