import Reminders.Proofs.Decimal.Bits
import Reminders.Proofs.Json.RoundTrip
import Reminders.Proofs.Store.Query
import Reminders.Store.Text

/-!
The text of a store.

What is read from the text of a store, if anything is, is the store. An integer that does not fit in
64 bits is read as a double, and no cell is a double in that form, so such a text is not taken for
the text of another store.

* `Store.eq_of_ofText?_toText`
-/

namespace Reminders

open Json

/-- What is read from what was written, if anything is, is what was written. -/
def Recovers (encode : α → Json) (decode : Json → Option α) : Prop :=
  ∀ {a v b}, reread (encode a) = some v → decode v = some b → b = a

theorem Recovers.items {encode : α → Json} {decode : Json → Option α}
    (recovers : Recovers encode decode) {l : List α} {vs : List Json} {bs : List α}
    (read : rereadItems (l.map encode) = some vs) (decoded : vs.mapM decode = some bs) :
    bs = l := by
  induction l generalizing vs bs with
  | nil =>
    cases read
    cases decoded
    rfl
  | cons a l ih =>
    obtain ⟨v, vs, first, later, rfl⟩ := rereadItems_cons_eq_some_iff.mp read
    rw [List.mapM_cons] at decoded
    obtain ⟨b, first', decoded⟩ := Option.bind_eq_some_iff.mp decoded
    obtain ⟨bs, later', decoded⟩ := Option.bind_eq_some_iff.mp decoded
    cases decoded
    rw [recovers first first', ih later later']

namespace Cell

theorem recovers : Recovers toJson ofJson? := by
  intro c v d read decoded
  cases c with
  | null => cases read; cases decoded; rfl
  | text s => cases read; cases decoded; rfl
  | integer n =>
    rcases eq_int_or_float_of_reread read with rfl | ⟨x, rfl⟩
    · cases decoded; rfl
    · cases decoded
  | real x =>
    obtain ⟨vs, items, rfl⟩ := reread_arr_eq_some_iff.mp read
    obtain ⟨v, ws, first, none, rfl⟩ := rereadItems_cons_eq_some_iff.mp items
    cases none
    rcases eq_int_or_float_of_reread first with rfl | ⟨y, rfl⟩
    · cases decoded
      rw [Int.toNat_natCast, UInt64.ofNat_toNat, Binary.ofBits_toBits]
    · cases decoded

theorem legible_toJson (c : Cell) {depth : Nat} (deep : 0 < depth) : c.toJson.Legible depth := by
  cases c with
  | null | integer | text => trivial
  | real x => exact ⟨deep, trivial, trivial⟩

end Cell

/-- Every column is listed. -/
class CompleteColumns (κ : Type) [Columns κ] : Prop where
  mem_all : ∀ k : κ, k ∈ Columns.all

instance : CompleteColumns UserColumn := ⟨fun k => by cases k; decide⟩
instance : CompleteColumns SubscriptionColumn := ⟨fun k => by cases k <;> decide⟩
instance : CompleteColumns PolicyColumn := ⟨fun k => by cases k <;> decide⟩
instance : CompleteColumns ChannelColumn := ⟨fun k => by cases k <;> decide⟩
instance : CompleteColumns LogColumn := ⟨fun k => by cases k <;> decide⟩

namespace Table

@[ext] theorem ext {t u : Table κ} (rows : t.rows = u.rows) (lastId : t.lastId = u.lastId) :
    t = u := by
  cases t; cases u; simp_all

variable {κ : Type} [DecidableEq κ] [Columns κ] [CompleteColumns κ]

/-- The JSON of a row. -/
def jsonOfRow (r : Row κ) : Json :=
  .arr (.int r.id :: (Columns.all : List κ).map fun k => (r.cell k).toJson)

theorem recovers_row : Recovers (jsonOfRow (κ := κ)) rowOfJson? := by
  intro r v r' read decoded
  obtain ⟨vs, items, rfl⟩ := reread_arr_eq_some_iff.mp read
  obtain ⟨v, ws, first, cells, rfl⟩ := rereadItems_cons_eq_some_iff.mp items
  rw [← Function.comp_def, ← List.map_map] at cells
  rcases eq_int_or_float_of_reread first with rfl | ⟨x, rfl⟩
  · simp only [rowOfJson?] at decoded
    split at decoded
    · obtain ⟨found, decodedCells, decoded⟩ := Option.bind_eq_some_iff.mp decoded
      cases decoded
      rw [Cell.recovers.items cells decodedCells]
      have same : ∀ k, (((Columns.all : List κ).zip (Columns.all.map r.cell)).lookup k).getD .null =
          r.cell k := fun k => by
        rw [lookup_zip_map r.cell (CompleteColumns.mem_all k), Option.getD_some]
      simp only [same]
    · cases decoded
  · cases decoded

theorem recovers : Recovers (toJson (κ := κ)) ofJson? := by
  intro t v t' read decoded
  obtain ⟨members, inside, rfl⟩ := reread_obj_eq_some_iff.mp read
  obtain ⟨last, ws, readLast, rest, rfl⟩ := rereadMembers_cons_eq_some_iff.mp inside
  obtain ⟨rows, ws, readRows, none, rfl⟩ := rereadMembers_cons_eq_some_iff.mp rest
  cases none
  obtain ⟨vs, items, rfl⟩ := reread_arr_eq_some_iff.mp readRows
  have getLast : (object [("last_id", last), ("rows", .arr vs)]).get? "last_id" = some last := by
    simp [object, get?, member?, lookup_insertMember]
  have getRows : (object [("last_id", last), ("rows", .arr vs)]).get? "rows" = some (.arr vs) := by
    simp [object, get?, member?, lookup_insertMember]
  rw [ofJson?, getLast, getRows] at decoded
  rcases eq_int_or_float_of_reread readLast with rfl | ⟨x, rfl⟩
  · obtain ⟨rows, decodedRows, decoded⟩ := Option.bind_eq_some_iff.mp decoded
    rw [ofRows?] at decoded
    split at decoded
    · cases decoded
      exact ext (recovers_row.items items decodedRows) rfl
    · cases decoded
  · cases decoded

omit [DecidableEq κ] [CompleteColumns κ] in
theorem legible_toJson (t : Table κ) {depth : Nat} (deep : 4 ≤ depth) : t.toJson.Legible depth := by
  have cells : ∀ cells : List Cell, LegibleItems (depth - 3) (cells.map Cell.toJson) := by
    intro cells
    induction cells with
    | nil => trivial
    | cons c cells ih => exact ⟨c.legible_toJson (by omega), ih⟩
  have rows : ∀ rows : List (Row κ), LegibleItems (depth - 2) (rows.map jsonOfRow) := by
    intro rows
    induction rows with
    | nil => trivial
    | cons r rows ih =>
      refine ⟨⟨by omega, trivial, ?_⟩, ih⟩
      rw [← Function.comp_def, ← List.map_map]
      exact cells _
  exact ⟨by omega, trivial, ⟨by omega, rows t.rows⟩, trivial⟩

end Table

namespace Store

theorem recovers : Recovers toJson ofJson? := by
  intro s v s' read decoded
  obtain ⟨members, inside, rfl⟩ := reread_obj_eq_some_iff.mp read
  obtain ⟨users, ws, readUsers, afterUsers, rfl⟩ := rereadMembers_cons_eq_some_iff.mp inside
  obtain ⟨subs, ws, readSubs, afterSubs, rfl⟩ := rereadMembers_cons_eq_some_iff.mp afterUsers
  obtain ⟨policies, ws, readPolicies, afterPolicies, rfl⟩ :=
    rereadMembers_cons_eq_some_iff.mp afterSubs
  obtain ⟨channels, ws, readChannels, afterChannels, rfl⟩ :=
    rereadMembers_cons_eq_some_iff.mp afterPolicies
  obtain ⟨logs, ws, readLogs, none, rfl⟩ := rereadMembers_cons_eq_some_iff.mp afterChannels
  cases none
  rw [ofJson?] at decoded
  simp only [object, List.foldl_cons, List.foldl_nil, get?, member?, lookup_insertMember,
    String.reduceEq, if_true, if_false, Option.bind_eq_bind, Option.bind_some] at decoded
  obtain ⟨_, decodedUsers, decoded⟩ := Option.bind_eq_some_iff.mp decoded
  obtain ⟨_, decodedSubs, decoded⟩ := Option.bind_eq_some_iff.mp decoded
  obtain ⟨_, decodedPolicies, decoded⟩ := Option.bind_eq_some_iff.mp decoded
  obtain ⟨_, decodedChannels, decoded⟩ := Option.bind_eq_some_iff.mp decoded
  obtain ⟨_, decodedLogs, decoded⟩ := Option.bind_eq_some_iff.mp decoded
  cases decoded
  rw [Table.recovers readUsers decodedUsers, Table.recovers readSubs decodedSubs,
    Table.recovers readPolicies decodedPolicies, Table.recovers readChannels decodedChannels,
    Table.recovers readLogs decodedLogs]

theorem legible_toJson (s : Store) : s.toJson.Legible maxDepth :=
  ⟨by decide, s.users.legible_toJson (by decide), s.subscriptions.legible_toJson (by decide),
    s.policies.legible_toJson (by decide), s.channels.legible_toJson (by decide),
    s.logs.legible_toJson (by decide), trivial⟩

theorem toText_ne_empty (s : Store) : s.toText ≠ "" := by
  intro empty
  obtain ⟨c, cs, text, -⟩ := chars_cons s.legible_toJson
  rw [toText, Json.toText, text, ← String.ofList_nil] at empty
  cases String.ofList_injective empty

/-- **What is read from the text of a store is the store.** -/
theorem eq_of_ofText?_toText {s s' : Store} (read : ofText? s.toText = some s') : s' = s := by
  rw [ofText?, if_neg s.toText_ne_empty, toText, parse?_toText s.legible_toJson] at read
  obtain ⟨v, read, decoded⟩ := Option.bind_eq_some_iff.mp read
  exact recovers read decoded

end Store

end Reminders
