import Reminders.Proofs.Store.Text

/-!
Reading a store again.

A store whose integers fit in 64 bits, as those of a file do, is found again in its text: the text can
be read, and what is read is the store.

* `Store.ofText?_toText`
-/

namespace Reminders

open Json

/-- What was written is read again as it was. -/
def Recovered (encode : α → Json) (decode : Json → Option α) (a : α) : Prop :=
  ∃ v, reread (encode a) = some v ∧ decode v = some a

theorem Recovered.items {encode : α → Json} {decode : Json → Option α} {l : List α}
    (all : ∀ a ∈ l, Recovered encode decode a) :
    ∃ vs, rereadItems (l.map encode) = some vs ∧ vs.mapM decode = some l ∧
      vs.length = l.length := by
  induction l with
  | nil => exact ⟨[], rfl, rfl, rfl⟩
  | cons a l ih =>
    obtain ⟨⟨v, read, decoded⟩, later⟩ := List.forall_mem_cons.mp all
    obtain ⟨vs, reads, decodes, length⟩ := ih later
    refine ⟨v :: vs, rereadItems_cons_eq_some_iff.mpr ⟨v, vs, read, reads, rfl⟩, ?_, ?_⟩
    · rw [List.mapM_cons, decoded, decodes]
      rfl
    · rw [List.length_cons, List.length_cons, length]

/-! ### Cells and rows -/

/-- An integer in the cell fits in 64 bits. -/
def Cell.Fits : Cell → Prop
  | .integer n => Width.IsInt64 n
  | _ => True

theorem Cell.Fits.recovered {c : Cell} (fits : c.Fits) : Recovered toJson ofJson? c := by
  cases c with
  | null => exact ⟨.null, rfl, rfl⟩
  | text s => exact ⟨.str s, rfl, rfl⟩
  | integer n => exact ⟨.int n, reread_int64 fits, rfl⟩
  | real x =>
    have bits : reread (.int x.toBits.toNat) = some (.int x.toBits.toNat) := by
      have := x.toBits.toNat_lt
      refine reread_int ⟨?_, ?_⟩
      · simp only [Width.minInt64]
        omega
      · simp only [Width.maxWord64]
        omega
    refine ⟨.arr [.int x.toBits.toNat], ?_, ?_⟩
    · refine reread_arr_eq_some_iff.mpr ⟨[.int x.toBits.toNat], ?_, rfl⟩
      exact rereadItems_cons_eq_some_iff.mpr ⟨_, [], bits, rfl, rfl⟩
    · change some (Cell.real _) = _
      rw [Int.toNat_natCast, UInt64.ofNat_toNat, Binary.ofBits_toBits]

/-- The id of the row and the integers in its cells fit in 64 bits. -/
structure Row.Fits (r : Row κ) : Prop where
  id : Width.IsInt64 r.id
  cell : ∀ k, (r.cell k).Fits

/-- Whatever id was given out fits in 64 bits, and so does what the rows hold. -/
structure Table.Fits (t : Table κ) : Prop where
  lastId : Width.IsInt64 t.lastId
  rows : ∀ r ∈ t.rows, r.Fits

namespace Table

variable {κ : Type} [DecidableEq κ] [Columns κ] [CompleteColumns κ]

theorem recovered_row {r : Row κ} (fits : r.Fits) : Recovered jsonOfRow rowOfJson? r := by
  obtain ⟨vs, read, decoded, length⟩ :=
    Recovered.items (l := (Columns.all : List κ).map r.cell) fun c mem => by
      obtain ⟨k, -, rfl⟩ := List.mem_map.mp mem
      exact (fits.cell k).recovered
  rw [List.map_map] at read
  rw [List.length_map] at length
  refine ⟨.arr (.int r.id :: vs), ?_, ?_⟩
  · refine reread_arr_eq_some_iff.mpr ⟨_, ?_, rfl⟩
    exact rereadItems_cons_eq_some_iff.mpr ⟨_, vs, reread_int64 fits.id, read, rfl⟩
  · have same : ∀ k, (((Columns.all : List κ).zip (Columns.all.map r.cell)).lookup k).getD .null =
        r.cell k := fun k => by
      rw [lookup_zip_map r.cell (CompleteColumns.mem_all k), Option.getD_some]
    simp only [rowOfJson?, length, if_true, decoded]
    simp only [bind, Option.bind, pure, same]

theorem Fits.recovered {t : Table κ} (fits : t.Fits) : Recovered toJson ofJson? t := by
  obtain ⟨vs, read, decoded, -⟩ :=
    Recovered.items fun r (mem : r ∈ t.rows) => recovered_row (fits.rows r mem)
  refine ⟨object [("last_id", .int t.lastId), ("rows", .arr vs)], ?_, ?_⟩
  · refine reread_obj_eq_some_iff.mpr ⟨_, ?_, rfl⟩
    refine rereadMembers_cons_eq_some_iff.mpr ⟨_, _, reread_int64 fits.lastId, ?_, rfl⟩
    refine rereadMembers_cons_eq_some_iff.mpr ⟨.arr vs, [], ?_, rfl, rfl⟩
    exact reread_arr_eq_some_iff.mpr ⟨vs, read, rfl⟩
  · have getLast : (object [("last_id", .int t.lastId), ("rows", .arr vs)]).get? "last_id" =
        some (.int t.lastId) := by
      simp [object, get?, member?, lookup_insertMember]
    have getRows : (object [("last_id", .int t.lastId), ("rows", .arr vs)]).get? "rows" =
        some (.arr vs) := by
      simp [object, get?, member?, lookup_insertMember]
    rw [ofJson?, getLast, getRows]
    simp only [decoded, bind, Option.bind, ofRows?]
    rw [dif_pos ⟨t.ascending, t.le_lastId⟩]

end Table

/-! ### Stores -/

/-- The integers of every table fit in 64 bits. -/
structure Store.Fits (s : Store) : Prop where
  users : s.users.Fits
  subscriptions : s.subscriptions.Fits
  policies : s.policies.Fits
  channels : s.channels.Fits
  logs : s.logs.Fits

namespace Store

theorem Fits.recovered {s : Store} (fits : s.Fits) : Recovered toJson ofJson? s := by
  obtain ⟨users, readUsers, decodedUsers⟩ := fits.users.recovered
  obtain ⟨subs, readSubs, decodedSubs⟩ := fits.subscriptions.recovered
  obtain ⟨policies, readPolicies, decodedPolicies⟩ := fits.policies.recovered
  obtain ⟨channels, readChannels, decodedChannels⟩ := fits.channels.recovered
  obtain ⟨logs, readLogs, decodedLogs⟩ := fits.logs.recovered
  refine ⟨object [("users", users), ("subscriptions", subs), ("policies", policies),
    ("channels", channels), ("logs", logs)], ?_, ?_⟩
  · refine reread_obj_eq_some_iff.mpr ⟨_, ?_, rfl⟩
    refine rereadMembers_cons_eq_some_iff.mpr ⟨_, _, readUsers, ?_, rfl⟩
    refine rereadMembers_cons_eq_some_iff.mpr ⟨_, _, readSubs, ?_, rfl⟩
    refine rereadMembers_cons_eq_some_iff.mpr ⟨_, _, readPolicies, ?_, rfl⟩
    refine rereadMembers_cons_eq_some_iff.mpr ⟨_, _, readChannels, ?_, rfl⟩
    exact rereadMembers_cons_eq_some_iff.mpr ⟨_, [], readLogs, rfl, rfl⟩
  · rw [ofJson?]
    simp only [object, List.foldl_cons, List.foldl_nil, get?, member?, lookup_insertMember,
      String.reduceEq, if_true, if_false, Option.bind_eq_bind, Option.bind_some, decodedUsers,
      decodedSubs, decodedPolicies, decodedChannels, decodedLogs]
    rfl

/-- **A store is found again in its text.** -/
theorem ofText?_toText {s : Store} (fits : s.Fits) : ofText? s.toText = some s := by
  obtain ⟨v, read, decoded⟩ := fits.recovered
  rw [ofText?, if_neg s.toText_ne_empty, toText, parse?_toText s.legible_toJson, read]
  exact decoded

end Store

end Reminders
