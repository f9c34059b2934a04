import Reminders.Proofs.Json.RoundTrip

/-!
Values that are read again as they are.

Strings, truth values and integers that fit in 64 bits are found again in their text, and so is an
object whose values are and whose members stand in the order of their names. `Json.object` puts them
there.

* `Json.Faithful.object`
* `Json.Faithful.parse?_toText`
-/

namespace Reminders.Json

/-! ### Members in order -/

/-- Every member comes before those of greater names, and no name comes twice. -/
def Ascending (members : List (String × Json)) : Prop := members.Pairwise fun a b => a.1 < b.1

variable {name : String} {value : Json} {members sorted : List (String × Json)}

theorem mem_insertMember {m : String × Json} (mem : m ∈ insertMember name value members) :
    m = (name, value) ∨ m ∈ members := by
  induction members with
  | nil => exact .inl (List.mem_singleton.mp mem)
  | cons first members ih =>
    unfold insertMember at mem
    split at mem
    · exact List.mem_cons.mp mem
    · split at mem
      · exact (List.mem_cons.mp mem).imp_right (List.mem_cons_of_mem _)
      · obtain rfl | mem := List.mem_cons.mp mem
        · exact .inr List.mem_cons_self
        · exact (ih mem).imp_right (List.mem_cons_of_mem _)

theorem Ascending.insertMember (ascending : Ascending members) :
    Ascending (insertMember name value members) := by
  induction members with
  | nil => exact List.pairwise_singleton ..
  | cons first members ih =>
    obtain ⟨least, rest⟩ := List.pairwise_cons.mp ascending
    unfold Json.insertMember
    split
    · rename_i before
      refine List.pairwise_cons.mpr ⟨fun m mem => ?_, ascending⟩
      obtain rfl | mem := List.mem_cons.mp mem
      · exact before
      · exact String.lt_trans before (least m mem)
    · split
      · rename_i same
        exact List.pairwise_cons.mpr ⟨fun m mem => same ▸ least m mem, rest⟩
      · rename_i notBefore different
        refine List.pairwise_cons.mpr ⟨fun m mem => ?_, ih rest⟩
        obtain rfl | mem := mem_insertMember mem
        · exact Decidable.byContradiction fun notAfter => different <|
            String.le_antisymm (String.not_lt.mp notAfter) (String.not_lt.mp notBefore)
        · exact least m mem

/-- A member of a name beyond all others comes last. -/
theorem insertMember_eq_append (last : ∀ m ∈ members, m.1 < name) :
    insertMember name value members = members ++ [(name, value)] := by
  induction members with
  | nil => rfl
  | cons first members ih =>
    obtain ⟨before, last⟩ := List.forall_mem_cons.mp last
    have different : name ≠ first.1 := fun same => String.lt_irrefl _ (same ▸ before)
    rw [insertMember, if_neg (String.lt_asymm before), if_neg different, ih last, List.cons_append]

theorem ascending_foldl_insertMember (ascending : Ascending sorted) :
    Ascending (members.foldl (fun sorted (name, value) => insertMember name value sorted) sorted) := by
  induction members generalizing sorted with
  | nil => exact ascending
  | cons first members ih => exact ih ascending.insertMember

theorem mem_foldl_insertMember {m : String × Json}
    (mem : m ∈ members.foldl (fun sorted (name, value) => insertMember name value sorted) sorted) :
    m ∈ members ∨ m ∈ sorted := by
  induction members generalizing sorted with
  | nil => exact .inr mem
  | cons first members ih =>
    obtain mem | mem := ih mem
    · exact .inl (List.mem_cons_of_mem _ mem)
    · obtain rfl | mem := mem_insertMember mem
      · exact .inl List.mem_cons_self
      · exact .inr mem

/-- Members that come in order are added one behind the other. -/
theorem foldl_insertMember_eq_append (ascending : Ascending (sorted ++ members)) :
    members.foldl (fun sorted (name, value) => insertMember name value sorted) sorted =
      sorted ++ members := by
  induction members generalizing sorted with
  | nil => exact (List.append_nil _).symm
  | cons first members ih =>
    have last : ∀ m ∈ sorted, m.1 < first.1 := fun m mem =>
      (List.pairwise_append.mp ascending).2.2 m mem first List.mem_cons_self
    calc
      _ = members.foldl _ (sorted ++ [first]) :=
        congrArg (members.foldl _) (insertMember_eq_append last)
      _ = sorted ++ [first] ++ members := ih (by simpa using ascending)
      _ = _ := List.append_assoc ..

theorem object_of_ascending (ascending : Ascending members) : object members = .obj members :=
  congrArg Json.obj (foldl_insertMember_eq_append (List.nil_append members ▸ ascending))

/-- An object that is put in order holds nothing but the members given. -/
theorem exists_object_eq (members : List (String × Json)) :
    ∃ sorted, object members = .obj sorted ∧ Ascending sorted ∧ ∀ m ∈ sorted, m ∈ members :=
  ⟨_, rfl, ascending_foldl_insertMember .nil, fun _ mem =>
    (mem_foldl_insertMember mem).resolve_right List.not_mem_nil⟩

theorem lookup_foldl_insertMember (name : String) :
    (members.foldl (fun sorted (name, value) => insertMember name value sorted) sorted).lookup name =
      (members.reverse.lookup name).or (sorted.lookup name) := by
  induction members generalizing sorted with
  | nil => rfl
  | cons first members ih =>
    rw [List.foldl_cons, ih, List.reverse_cons, List.lookup_append, Option.or_assoc,
      lookup_insertMember, List.lookup_cons, List.lookup_nil]
    by_cases same : name = first.1
    · rw [if_pos same, beq_iff_eq.mpr same]
      rfl
    · rw [if_neg same, beq_eq_false_iff_ne.mpr same]
      rfl

/-- Of two members with one name the later is found. -/
theorem get?_object (name : String) (members : List (String × Json)) :
    (object members).get? name = members.reverse.lookup name :=
  (lookup_foldl_insertMember name).trans (Option.or_none ..)

/-! ### Reading again -/

/-- The value is read as it is from its text, at no greater depth than this. -/
structure Faithful (depth : Nat) (v : Json) : Prop where
  legible : v.Legible depth
  kept : reread v = some v

namespace Faithful

variable {depth : Nat}

@[simp] theorem str (s : String) : Faithful depth (.str s) := ⟨trivial, rfl⟩

@[simp] theorem bool (b : Bool) : Faithful depth (.bool b) := ⟨trivial, rfl⟩

theorem int {n : Int} (range : Width.minInt64 ≤ n ∧ n ≤ Width.maxWord64) :
    Faithful depth (.int n) :=
  ⟨trivial, reread_int range⟩

theorem legibleMembers (all : ∀ m ∈ members, Faithful depth m.2) :
    LegibleMembers depth members := by
  induction members with
  | nil => trivial
  | cons first members ih =>
    obtain ⟨faithful, all⟩ := List.forall_mem_cons.mp all
    exact ⟨faithful.legible, ih all⟩

theorem rereadMembers (all : ∀ m ∈ members, Faithful depth m.2) :
    rereadMembers members = some members := by
  induction members with
  | nil => rfl
  | cons first members ih =>
    obtain ⟨faithful, all⟩ := List.forall_mem_cons.mp all
    exact rereadMembers_cons_eq_some_iff.mpr ⟨_, _, faithful.kept, ih all, rfl⟩

theorem int64 {n : Int} (fits : Width.IsInt64 n) : Faithful depth (.int n) :=
  ⟨trivial, reread_int64 fits⟩

/-- An object of values that are read as they are is itself. -/
theorem object (deep : 0 < depth) (all : ∀ m ∈ members, Faithful (depth - 1) m.2) :
    Faithful depth (object members) := by
  obtain ⟨sorted, same, ascending, mem⟩ := exists_object_eq members
  have all : ∀ m ∈ sorted, Faithful (depth - 1) m.2 := fun m inside => all m (mem m inside)
  rw [same]
  refine ⟨⟨deep, legibleMembers all⟩, ?_⟩
  exact reread_obj_eq_some_iff.mpr ⟨sorted, rereadMembers all, object_of_ascending ascending⟩

/-- **A faithful value is what is read from its text.** -/
theorem parse?_toText {v : Json} (faithful : Faithful maxDepth v) : parse? v.toText = some v :=
  (Json.parse?_toText faithful.legible).trans faithful.kept

end Faithful

end Reminders.Json
