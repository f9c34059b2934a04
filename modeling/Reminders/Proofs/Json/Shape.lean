import Mathlib.Data.List.Forall2
import Mathlib.Data.List.Nodup
import Reminders.Proofs.Calendar.WrittenInstant
import Reminders.Proofs.Store.Query
import Reminders.Subscription.Json

/-!
Records that are decoded again.

A decoder may take more than one value for the same thing, and what it takes is encoded in one way
only. What was decoded once is decoded again from there. For a record this is a matter of its fields:
whatever they read is read again from the members that are written for them, and members are looked
up by their names, so it does not matter in which order they stand.

* `Json.Reordered`: the same value with the members of its objects in another order.
* `Settles`: what was decoded is decoded again.
* `Shape.WrittenAs.decode`: the members that a record is written as are decoded as the record.
* `Shape.Rewrites`: whatever a shape reads is written as some members, with a rule for each kind of
  field.
* `Shape.Rewrites.settles`: such records settle.
-/

namespace Reminders

variable {α β : Type}

/-! ### The order of members -/

namespace Json

/-- The same value, with the members of its objects in another order down to this depth. -/
def Reordered : Nat → Json → Json → Prop
  | depth + 1, .obj members, w => ∃ inner all, w = .obj all ∧ all.Perm inner ∧
      List.Forall₂ (fun m m' => m'.1 = m.1 ∧ Reordered depth m.2 m'.2) members inner
  | _, v, w => w = v

/-- The members have the same names and the same values, up to the order inside these. -/
def SameMember (depth : Nat) (m m' : String × Json) : Prop :=
  m'.1 = m.1 ∧ Reordered depth m.2 m'.2

variable {depth : Nat} {v w : Json} {members : List (String × Json)}

theorem Reordered.refl (depth : Nat) (v : Json) : Reordered depth v v := by
  induction depth generalizing v with
  | zero => rfl
  | succ depth ih =>
    cases v with
    | obj members =>
      exact ⟨members, members, rfl, .refl _, List.forall₂_same.mpr fun m _ => ⟨rfl, ih m.2⟩⟩
    | null | bool | int | float | str | arr => rfl

/-- What has no members has one order. -/
theorem Reordered.eq (reordered : Reordered depth v w) (flat : ∀ members, v ≠ .obj members) :
    w = v := by
  cases v with
  | obj members => exact absurd rfl (flat members)
  | null | bool | int | float | str | arr => cases depth <;> exact reordered

/-- An object in another order is an object, and its values are those of the first. -/
theorem Reordered.exists_members (reordered : Reordered depth (.obj members) w) :
    ∃ inner all, w = .obj all ∧ all.Perm inner ∧
      List.Forall₂ (SameMember (depth - 1)) members inner := by
  cases depth with
  | zero =>
    exact ⟨members, members, reordered, .refl _, List.forall₂_same.mpr fun _ _ => ⟨rfl, rfl⟩⟩
  | succ depth => exact reordered

theorem Reordered.ne_null (reordered : Reordered depth v w) (notNull : v ≠ .null) : w ≠ .null := by
  cases v with
  | obj members =>
    obtain ⟨inner, all, rfl, -⟩ := reordered.exists_members
    nofun
  | null | bool | int | float | str | arr =>
    rw [reordered.eq nofun]
    exact notNull

end Json

/-! ### Decoding again -/

/-- Whatever the decoder takes is decoded again from the value that it is encoded as, in whatever
order members stand down to this depth. So it has the same encoding from then on. -/
def Settles (depth : Nat) (decoder : Decoder α) (encode : α → Json) : Prop :=
  ∀ v a, decoder v = .ok a → ∀ w, Json.Reordered depth (encode a) w → decoder w = .ok a

/-- Everything is decoded from the value that it is encoded as. -/
def Restores (depth : Nat) (decoder : Decoder α) (encode : α → Json) : Prop :=
  ∀ a w, Json.Reordered depth (encode a) w → decoder w = .ok a

variable {depth : Nat} {decoder : Decoder α} {encode : α → Json}

theorem Settles.decode_encode (settles : Settles depth decoder encode) {v : Json} {a : α}
    (decoded : decoder v = .ok a) : decoder (encode a) = .ok a :=
  settles v a decoded (encode a) (.refl depth (encode a))

theorem Restores.settles (restores : Restores depth decoder encode) : Settles depth decoder encode :=
  fun _ a _ w => restores a w

theorem restores_of_flat (decoded : ∀ a, decoder (encode a) = .ok a)
    (flat : ∀ a members, encode a ≠ .obj members) : Restores depth decoder encode := by
  intro a w reordered
  rw [reordered.eq (flat a)]
  exact decoded a

namespace Json

theorem decodeInt_eq_ok_iff {expected : String} {low high n : Int} {v : Json} :
    decodeInt expected low high v = .ok n ↔ v = .int n ∧ low ≤ n ∧ n ≤ high := by
  constructor
  · intro decoded
    unfold decodeInt at decoded
    split at decoded
    · split at decoded
      · rename_i range
        cases decoded
        exact ⟨rfl, range⟩
      · cases decoded
    · cases decoded
  · rintro ⟨rfl, range⟩
    exact if_pos range

theorem settles_int64 : Settles depth decodeInt64 .int := by
  intro v n decoded w reordered
  obtain rfl := reordered.eq nofun
  exact decodeInt_eq_ok_iff.mpr ⟨rfl, (decodeInt_eq_ok_iff.mp decoded).2⟩

/-- A number that fits in a word is taken as this word. -/
theorem map_decodeInt_eq_ok {expected : String} {high n : Nat} {ofNat : Nat → α} {a : α}
    (le : n ≤ high) (same : ofNat n = a) :
    (decodeInt expected 0 high (.int n)).map (ofNat ·.toNat) = .ok a := by
  refine except_map_eq_ok_iff.mpr ⟨n, decodeInt_eq_ok_iff.mpr ⟨rfl, by omega, by omega⟩, ?_⟩
  rw [Int.toNat_natCast, same]

theorem restores_word32 : Restores depth decodeWord32 fun n => .int n.toNat :=
  restores_of_flat (fun n => map_decodeInt_eq_ok (Nat.le_of_lt_succ n.toNat_lt) n.ofNat_toNat) nofun

theorem restores_word64 : Restores depth decodeWord64 fun n => .int n.toNat :=
  restores_of_flat (fun n => map_decodeInt_eq_ok (Nat.le_of_lt_succ n.toNat_lt) n.ofNat_toNat) nofun

theorem restores_count : Restores depth decodeCount fun n => .int n.toNat :=
  restores_of_flat (fun n => map_decodeInt_eq_ok (Nat.le_of_lt_succ n.toNat_lt) n.ofNat_toNat) nofun

theorem restores_int32 :
    Restores depth (fun v => (decodeInt32 v).map Int32.ofInt) fun n => .int n.toInt := by
  refine restores_of_flat (fun n => ?_) nofun
  have low := n.le_toInt
  have high := n.toInt_lt
  have fits : Width.minInt32 ≤ n.toInt ∧ n.toInt ≤ Width.maxInt32 := by
    unfold Width.minInt32 Width.maxInt32
    omega
  exact except_map_eq_ok_iff.mpr
    ⟨n.toInt, decodeInt_eq_ok_iff.mpr ⟨rfl, fits⟩, Int32.ofInt_toInt n⟩

theorem restores_float : Restores depth decodeFloat .float := restores_of_flat (fun _ => rfl) nofun

theorem restores_bool : Restores depth decodeBool .bool := restores_of_flat (fun _ => rfl) nofun

theorem restores_string : Restores depth decodeString .str := restores_of_flat (fun _ => rfl) nofun

/-- Any value is taken as it is, so the order of its members counts. -/
theorem restores_any : Restores 0 decodeAny id := fun _ _ same => congrArg Except.ok same

/-- A tag, a date and the like are encoded as strings. -/
theorem restores_of_text {text : α → String} (decoded : ∀ a, decoder (.str (text a)) = .ok a) :
    Restores depth decoder fun a => .str (text a) := restores_of_flat decoded nofun

theorem restores_date : Restores depth decodeDate (.str ·.toText) := by
  refine restores_of_text fun d => ?_
  rw [decodeDate, Date.parse_toText]
  rfl

theorem restores_instant : Restores depth decodeInstant (.str ·.toText) := by
  refine restores_of_text fun t => ?_
  rw [decodeInstant, Instant.parse_toText]
  rfl

theorem str_ne_null (s : String) : Json.str s ≠ .null := nofun

/-- A value that may be missing settles if one that is there does and is not taken for one that is
missing. -/
theorem settles_option (settles : Settles depth decoder encode) (notNull : ∀ a, encode a ≠ .null) :
    Settles depth (decodeOption decoder) (ofOption encode) := by
  intro v o decoded w reordered
  cases o with
  | none =>
    rw [reordered.eq nofun]
    rfl
  | some a =>
    have taken : decoder v = .ok a := by
      cases v with
      | null => cases decoded
      | bool | int | float | str | arr | obj =>
        obtain ⟨_, decoded, ⟨⟩⟩ := except_map_eq_ok_iff.mp decoded
        exact decoded
    have again := settles v a taken w reordered
    cases w with
    | null => exact absurd rfl (reordered.ne_null (notNull a))
    | bool | int | float | str | arr | obj => exact except_map_eq_ok_iff.mpr ⟨a, again, rfl⟩

end Json

/-! ### Members -/

namespace Shape

variable {shape : Shape α} {a : α} {members : List (String × Json)} {name : String}

/-- The members are what the record is written as: they are named as the fields are, each passes the
check of its field, and where they are found the shape finds the record. -/
structure WrittenAs (shape : Shape α) (a : α) (members : List (String × Json)) : Prop where
  names : members.map Prod.fst = shape.fields.map Prod.fst
  checked : ∀ m ∈ members, ∃ check, (m.1, check) ∈ shape.fields ∧ check m.2 = .ok ()
  found : ∀ all, (∀ m ∈ members, Json.member? all m.1 = some m.2) → shape.ofMembers all = .ok a

namespace WrittenAs

theorem pure (a : α) : (pure a : Shape α).WrittenAs a [] :=
  ⟨rfl, fun _ mem => absurd mem List.not_mem_nil, fun _ _ => rfl⟩

theorem field {decoder : Decoder α} {absent absentItem : Option α} {v : Json}
    (decoded : decoder v = .ok a) :
    (Shape.field name decoder absent absentItem).WrittenAs a [(name, v)] where
  names := rfl
  checked m mem := by
    cases List.mem_singleton.mp mem
    exact ⟨_, List.mem_cons_self, except_map_eq_ok_iff.mpr ⟨a, decoded, rfl⟩⟩
  found all here := by
    have present : Json.member? all name = some v := here (name, v) List.mem_cons_self
    simp only [Shape.field, present]
    exact decoded

theorem seq {f : Shape (α → β)} {g : α → β} {x : Shape α} {first second : List (String × Json)}
    (left : f.WrittenAs g first) (right : x.WrittenAs a second) :
    (f <*> x).WrittenAs (g a) (first ++ second) where
  names := by
    rw [List.map_append, left.names, right.names]
    exact List.map_append.symm
  checked := by
    refine List.forall_mem_append.mpr ⟨fun m mem => ?_, fun m mem => ?_⟩
    · obtain ⟨check, known, passed⟩ := left.checked m mem
      exact ⟨check, List.mem_append_left _ known, passed⟩
    · obtain ⟨check, known, passed⟩ := right.checked m mem
      exact ⟨check, List.mem_append_right _ known, passed⟩
  found all here := by
    obtain ⟨hereFirst, hereSecond⟩ := List.forall_mem_append.mp here
    refine except_bind_eq_ok_iff.mpr ⟨g, left.found all hereFirst, ?_⟩
    exact except_bind_eq_ok_iff.mpr ⟨a, right.found all hereSecond, rfl⟩

/-- **The members that a record is written as are decoded as the record**, in any order. -/
theorem decode (written : shape.WrittenAs a members) (distinct : (shape.fields.map Prod.fst).Nodup)
    {all : List (String × Json)} (same : all.Perm members) :
    shape.decode name (.obj all) = .ok a := by
  have distinctAll : (all.map Prod.fst).Nodup := by
    rw [(same.map Prod.fst).nodup_iff, written.names]
    exact distinct
  have checked : ∀ l ⊆ all, shape.checkMembers l = .ok () := by
    intro l known
    induction l with
    | nil => rfl
    | cons m l ih =>
      obtain ⟨mem, known⟩ := List.cons_subset.mp known
      obtain ⟨check, field, passed⟩ := written.checked m (same.mem_iff.mp mem)
      refine except_bind_eq_ok_iff.mpr ⟨(), ?_, ih known⟩
      simp only [lookup_eq_some_of_mem distinct field]
      exact passed
  have found : shape.ofMembers all = .ok a := written.found all fun m mem =>
    lookup_eq_some_of_mem distinctAll (same.mem_iff.mpr mem)
  exact except_bind_eq_ok_iff.mpr ⟨(), checked all (List.Subset.refl all), found⟩

end WrittenAs

/-! ### What a shape reads -/

/-- The shape reads the record, from members or from items. -/
def Reads (shape : Shape α) (a : α) : Prop :=
  (∃ members, shape.ofMembers members = .ok a) ∨
    ∃ expected position items, shape.ofItems expected position items = .ok a

theorem reads_of_decode {v : Json} (decoded : shape.decode name v = .ok a) : shape.Reads a := by
  cases v with
  | obj members =>
    obtain ⟨_, -, read⟩ := except_bind_eq_ok_iff.mp decoded
    exact .inl ⟨members, read⟩
  | arr items =>
    obtain ⟨a', read, last⟩ := except_bind_eq_ok_iff.mp decoded
    split at last
    · cases last
    · cases last
      exact .inr ⟨_, _, _, read⟩
  | null | bool | int | float | str => cases decoded

theorem Reads.seq {f : Shape (α → β)} {x : Shape α} {b : β} (reads : (f <*> x).Reads b) :
    ∃ g a, f.Reads g ∧ x.Reads a ∧ g a = b := by
  rcases reads with ⟨members, read⟩ | ⟨expected, position, items, read⟩
  · obtain ⟨g, left, read⟩ := except_bind_eq_ok_iff.mp read
    obtain ⟨a, right, read⟩ := except_bind_eq_ok_iff.mp read
    exact ⟨g, a, .inl ⟨_, left⟩, .inl ⟨_, right⟩, Except.ok.inj read⟩
  · obtain ⟨g, left, read⟩ := except_bind_eq_ok_iff.mp read
    obtain ⟨a, right, read⟩ := except_bind_eq_ok_iff.mp read
    exact ⟨g, a, .inr ⟨_, _, _, left⟩, .inr ⟨_, _, _, right⟩, Except.ok.inj read⟩

/-- A field reads what its decoder takes, or what stands for its absence. -/
theorem Reads.field {decoder : Decoder α} {absent absentItem : Option α}
    (reads : (Shape.field name decoder absent absentItem).Reads a) :
    (∃ v, decoder v = .ok a) ∨ absent = some a ∨ absentItem = some a := by
  rcases reads with ⟨members, read⟩ | ⟨expected, position, items, read⟩
  · simp only [Shape.field] at read
    split at read
    · exact .inl ⟨_, read⟩
    · split at read
      · cases read
        exact .inr (.inl rfl)
      · cases read
  · cases items with
    | cons v rest => exact .inl ⟨v, read⟩
    | nil =>
      simp only [Shape.field] at read
      split at read
      · cases read
        exact .inr (.inr rfl)
      · cases read

/-- Whatever the shape reads is written as members that are related to it, in whatever order the
members of their values stand. -/
def Rewrites (depth : Nat) (shape : Shape α) (R : α → List (String × Json) → Prop) : Prop :=
  ∀ a, shape.Reads a → ∃ members, R a members ∧
    ∀ inner, List.Forall₂ (Json.SameMember depth) members inner → shape.WrittenAs a inner

namespace Rewrites

variable {depth : Nat} {decoder : Decoder α} {encode : α → Json}
  {f : Shape (α → β)} {R : β → List (String × Json) → Prop}

theorem pure {R : α → List (String × Json) → Prop} (related : R a []) :
    Rewrites depth (Pure.pure a) R := by
  intro a' reads
  have same : a = a' := by
    rcases reads with ⟨members, read⟩ | ⟨expected, position, items, read⟩
    · exact Except.ok.inj read
    · exact Except.ok.inj read
  subst same
  refine ⟨[], related, fun inner none => ?_⟩
  cases none
  exact .pure a

/-- A field after others adds its member to theirs. -/
theorem field {absent absentItem : Option α}
    (before : Rewrites depth f fun g members => ∀ a, R (g a) (members ++ [(name, encode a)]))
    (settles : Settles depth decoder encode)
    (missing : ∀ a, absent = some a ∨ absentItem = some a →
      ∀ w, Json.Reordered depth (encode a) w → decoder w = .ok a) :
    Rewrites depth (f <*> Shape.field name decoder absent absentItem) R := by
  intro b reads
  obtain ⟨g, a, left, right, rfl⟩ := reads.seq
  obtain ⟨members, related, written⟩ := before g left
  have decoded : ∀ w, Json.Reordered depth (encode a) w → decoder w = .ok a := by
    rcases right.field with ⟨v, taken⟩ | absent
    · exact settles v a taken
    · exact missing a absent
  refine ⟨_, related a, fun inner each => ?_⟩
  obtain ⟨first, last, rfl, firsts, lasts⟩ := exists_eq_append_of_forall₂ each
  obtain ⟨⟨_, w⟩, _, ⟨rfl, same⟩, none, rfl⟩ := List.forall₂_cons_left_iff.mp lasts
  cases none
  exact (written first firsts).seq (.field (decoded w same))

/-- A field that must be there. -/
theorem required
    (before : Rewrites depth f fun g members => ∀ a, R (g a) (members ++ [(name, encode a)]))
    (settles : Settles depth decoder encode) :
    Rewrites depth (f <*> Shape.required name decoder) R :=
  before.field settles (by rintro a (absent | absent) <;> cases absent)

/-- A field with a value of its own, which is decoded as any other. -/
theorem defaulted {value : α}
    (before : Rewrites depth f fun g members => ∀ a, R (g a) (members ++ [(name, encode a)]))
    (settles : Settles depth decoder encode)
    (own : ∀ w, Json.Reordered depth (encode value) w → decoder w = .ok value) :
    Rewrites depth (f <*> Shape.defaulted name decoder value) R := by
  refine before.field settles ?_
  rintro a (⟨⟨⟩⟩ | ⟨⟨⟩⟩)
  · exact own
  · exact own

/-- A field that may be left out or null. -/
theorem optional {f : Shape (Option α → β)}
    (before : Rewrites depth f fun g members =>
      ∀ o, R (g o) (members ++ [(name, Json.ofOption encode o)]))
    (settles : Settles depth decoder encode) (notNull : ∀ a, encode a ≠ .null) :
    Rewrites depth (f <*> Shape.optional name decoder) R := by
  refine before.field (Json.settles_option settles notNull) ?_
  rintro o (⟨⟨⟩⟩ | ⟨⟨⟩⟩) w reordered
  · rw [reordered.eq nofun]
    rfl

/-- **Records settle** when whatever the shape reads is written as the members of its JSON. -/
theorem settles {encode : α → Json}
    (rewrites : Rewrites (depth - 1) shape fun a members => encode a = .obj members)
    (distinct : (shape.fields.map Prod.fst).Nodup) : Settles depth (shape.decode name) encode := by
  intro v a decoded w reordered
  obtain ⟨members, encoded, written⟩ := rewrites a (reads_of_decode decoded)
  rw [encoded] at reordered
  obtain ⟨inner, all, rfl, order, same⟩ := reordered.exists_members
  exact (written inner same).decode distinct order

end Rewrites

end Shape

end Reminders
