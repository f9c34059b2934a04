import Mathlib.Algebra.BigOperators.Group.List.Basic
import Mathlib.Data.List.Forall2
import Mathlib.Data.List.Nodup
import Mathlib.Data.List.Perm.Basic

/-!
Lists and results.

What the proofs use of lists, and of computations that succeed or fail, and that is true of any of
them.
-/

namespace Reminders

/-! ### Results -/

theorem except_bind_eq_ok_iff {x : Except ε α} {f : α → Except ε β} {b : β} :
    x >>= f = .ok b ↔ ∃ a, x = .ok a ∧ f a = .ok b := by
  cases x with
  | ok a => exact ⟨fun h => ⟨a, rfl, h⟩, fun ⟨_, same, h⟩ => by cases same; exact h⟩
  | error e => exact ⟨nofun, nofun⟩

theorem exists_except_bind_iff {x : Except ε α} {f : α → Except ε β} :
    (∃ b, x >>= f = .ok b) ↔ ∃ a, x = .ok a ∧ ∃ b, f a = .ok b := by
  simp only [except_bind_eq_ok_iff]
  constructor
  · rintro ⟨b, a, read, rest⟩
    exact ⟨a, read, b, rest⟩
  · rintro ⟨a, read, b, rest⟩
    exact ⟨b, a, read, rest⟩

theorem except_map_eq_ok_iff {x : Except ε α} {f : α → β} {b : β} :
    x.map f = .ok b ↔ ∃ a, x = .ok a ∧ f a = b := by
  cases x with
  | error e => exact ⟨nofun, nofun⟩
  | ok a =>
    constructor
    · intro h
      exact ⟨a, rfl, Except.ok.inj h⟩
    · rintro ⟨_, same, rfl⟩
      cases same
      rfl

theorem except_map_eq_error_iff {x : Except ε α} {f : α → β} {e : ε} :
    x.map f = .error e ↔ x = .error e := by
  cases x with
  | error e' =>
    constructor
    · exact fun h => congrArg _ (Except.error.inj h)
    · exact fun h => congrArg _ (Except.error.inj h)
  | ok a => exact ⟨nofun, nofun⟩

theorem exists_map_eq_error_iff {x : Except ε α} {f : α → β} :
    (∃ e, x.map f = .error e) ↔ ¬∃ a, x = .ok a := by
  cases x with
  | error e => exact ⟨fun _ => nofun, fun _ => ⟨e, rfl⟩⟩
  | ok a => exact ⟨nofun, fun none => absurd ⟨a, rfl⟩ none⟩

theorem toOption_bind_id_eq_some {x : Except ε (Option α)} {a : α} :
    x.toOption.bind id = some a ↔ x = .ok (some a) := by
  cases x with
  | ok o => cases o <;> simp [Except.toOption]
  | error e => simp [Except.toOption]

theorem toOption_bind_toOption_eq_some {x : Except ε (Except ε' α)} {a : α} :
    x.toOption.bind Except.toOption = some a ↔ x = .ok (.ok a) := by
  cases x with
  | ok y => cases y <;> simp [Except.toOption]
  | error e => simp [Except.toOption]

/-! ### Results of all items -/

/-- Reading every item and then keeping some readings is reading and keeping item by item. -/
theorem filterMap_of_mapM_eq_ok {f : α → Except ε β} {g : β → Option γ} {l : List α} {r : List β}
    (h : l.mapM f = .ok r) : r.filterMap g = l.filterMap fun a => (f a).toOption.bind g := by
  induction l generalizing r with
  | nil => cases h; rfl
  | cons a l ih =>
    rw [List.mapM_cons, except_bind_eq_ok_iff] at h
    obtain ⟨b, head, h⟩ := h
    obtain ⟨bs, tail, h⟩ := except_bind_eq_ok_iff.mp h
    cases h
    rw [List.filterMap_cons, List.filterMap_cons, head, ih tail]
    rfl

/-- When every item is read, each one is. -/
theorem exists_of_mapM_eq_ok {f : α → Except ε β} {l : List α} {r : List β} (h : l.mapM f = .ok r)
    {a : α} (mem : a ∈ l) : ∃ b, f a = .ok b := by
  induction l generalizing r with
  | nil => exact absurd mem List.not_mem_nil
  | cons a' l ih =>
    rw [List.mapM_cons, except_bind_eq_ok_iff] at h
    obtain ⟨b, head, h⟩ := h
    obtain ⟨bs, tail, -⟩ := except_bind_eq_ok_iff.mp h
    rcases List.mem_cons.mp mem with rfl | mem
    · exact ⟨b, head⟩
    · exact ih tail mem

/-- When each item is read, all of them are. -/
theorem exists_mapM_eq_ok {f : α → Except ε β} {l : List α} (all : ∀ a ∈ l, ∃ b, f a = .ok b) :
    ∃ bs, l.mapM f = .ok bs := by
  induction l with
  | nil => exact ⟨[], rfl⟩
  | cons a rest ih =>
    obtain ⟨⟨b, first⟩, later⟩ := List.forall_mem_cons.mp all
    obtain ⟨bs, rest⟩ := ih later
    refine ⟨b :: bs, ?_⟩
    rw [List.mapM_cons, first, except_bind_eq_ok_iff]
    exact ⟨b, rfl, except_bind_eq_ok_iff.mpr ⟨bs, rest, rfl⟩⟩

/-! ### Items that are left out -/

/-- Leaving items out before or after they are looked up comes to the same. -/
theorem filterMap_filter_eq {P : α → Bool} {Q : β → Bool} {f : α → Option β}
    (same : ∀ a b, f a = some b → Q b = P a) (l : List α) :
    (l.filter P).filterMap f = (l.filterMap f).filter Q := by
  rw [List.filterMap_filter, List.filter_filterMap]
  refine List.filterMap_congr fun a _ => ?_
  cases found : f a with
  | none => exact ite_self _
  | some b => rw [Option.filter_some, same a b found]

theorem flatMap_filter_eq {P : α → Bool} {Q : β → Bool} {f : α → List β}
    (same : ∀ a, ∀ b ∈ f a, Q b = P a) (l : List α) :
    (l.filter P).flatMap f = (l.flatMap f).filter Q := by
  induction l with
  | nil => rfl
  | cons a rest ih =>
    rw [List.flatMap_cons, List.filter_append, ← ih]
    cases kept : P a with
    | true =>
      have all : (f a).filter Q = f a :=
        List.filter_eq_self.mpr fun b mem => (same a b mem).trans kept
      rw [List.filter_cons_of_pos kept, List.flatMap_cons, all]
    | false =>
      have none : (f a).filter Q = [] := by
        refine List.filter_eq_nil_iff.mpr fun b mem => ?_
        rw [same a b mem, kept]
        exact Bool.false_ne_true
      rw [none, List.nil_append, List.filter_cons_of_neg]
      rw [kept]
      exact Bool.false_ne_true

/-! ### Items related one by one -/

/-- Lists whose items are related one by one, through a third list. -/
theorem forall₂_trans {R : α → α → Prop} (trans : ∀ {a b c}, R a b → R b c → R a c)
    {l m n : List α} (first : List.Forall₂ R l m) (second : List.Forall₂ R m n) :
    List.Forall₂ R l n := by
  induction first generalizing n with
  | nil => exact second
  | cons head _ ih =>
    cases second with
    | cons head' tail' => exact .cons (trans head head') (ih tail')

/-- What is read of the items one by one is related one by one. -/
theorem forall₂_filterMap {R : β → γ → Prop} {f : α → Option β} {g : α → Option γ} {l : List α}
    (each : ∀ a ∈ l, ∃ b c, f a = some b ∧ g a = some c ∧ R b c) :
    List.Forall₂ R (l.filterMap f) (l.filterMap g) := by
  induction l with
  | nil => exact .nil
  | cons a rest ih =>
    obtain ⟨⟨b, c, first, second, related⟩, later⟩ := List.forall_mem_cons.mp each
    rw [List.filterMap_cons_some first, List.filterMap_cons_some second]
    exact .cons related (ih later)

/-- What is related to a list item by item falls apart where the list does. -/
theorem exists_eq_append_of_forall₂ {R : α → β → Prop} {l m : List α} {u : List β}
    (related : List.Forall₂ R (l ++ m) u) :
    ∃ v w, u = v ++ w ∧ List.Forall₂ R l v ∧ List.Forall₂ R m w := by
  induction l generalizing u with
  | nil => exact ⟨[], u, rfl, .nil, related⟩
  | cons a l ih =>
    obtain ⟨b, u, first, later, rfl⟩ := List.forall₂_cons_left_iff.mp related
    obtain ⟨v, w, rfl, left, right⟩ := ih later
    exact ⟨b :: v, w, rfl, .cons first left, right⟩

/-! ### Order -/

/-- Lists that have the same members of every kind, in any order, have the same members. -/
theorem perm_of_filter {P : κ → α → Bool} {l l' : List α} (kinds : ∀ a ∈ l, ∃ k, P k a)
    (kinds' : ∀ a ∈ l', ∃ k, P k a) (same : ∀ k, (l'.filter (P k)).Perm (l.filter (P k))) :
    l'.Perm l := by
  classical
  apply List.perm_iff_count.mpr
  intro a
  by_cases kind : ∃ k, P k a
  · obtain ⟨k, kind⟩ := kind
    rw [← List.count_filter kind, ← List.count_filter (l := l) kind]
    exact (same k).count_eq a
  · rw [List.count_eq_zero.mpr fun mem => kind (kinds' a mem),
      List.count_eq_zero.mpr fun mem => kind (kinds a mem)]

/-- Lists that agree in the keys of their items agree in all that depends on the key. -/
theorem perm_map_of_keys {k : α → κ} {f : α → β} {a b : List α} (keys : (a.map k).Perm (b.map k))
    (same : ∀ x ∈ a, ∀ y ∈ b, k x = k y → f x = f y) : (a.map f).Perm (b.map f) := by
  induction a generalizing b with
  | nil =>
    rw [List.map_eq_nil_iff.mp keys.nil_eq.symm]
  | cons x rest ih =>
    obtain ⟨y, mem, alike⟩ := List.mem_map.mp (keys.mem_iff.mp List.mem_cons_self)
    obtain ⟨before, after, rfl⟩ := List.append_of_mem mem
    have front : (before ++ y :: after).Perm (y :: (before ++ after)) := List.perm_middle
    have rest_keys : (rest.map k).Perm ((before ++ after).map k) := by
      have moved := keys.trans (front.map k)
      rw [List.map_cons, List.map_cons, alike] at moved
      exact moved.cons_inv
    have later := ih rest_keys fun x' mem' y' mem'' =>
      same x' (List.mem_cons_of_mem x mem') y' (front.mem_iff.mpr (List.mem_cons_of_mem y mem''))
    refine ((?_ : List.Perm _ _).trans (front.map f).symm)
    rw [List.map_cons, List.map_cons, same x List.mem_cons_self y mem alike.symm]
    exact later.cons _

/-- Texts of one length are compared before what follows them. -/
theorem append_lt_append {a b : List Char} (length : a.length = b.length) (less : a < b)
    (rest rest' : List Char) : a ++ rest < b ++ rest' := by
  induction a generalizing b with
  | nil =>
    obtain rfl := List.eq_nil_of_length_eq_zero length.symm
    exact absurd less (List.not_lt_nil [])
  | cons c a ih =>
    obtain _ | ⟨d, b⟩ := b
    · cases length
    rw [List.cons_append, List.cons_append, List.cons_lt_cons_iff]
    rcases List.cons_lt_cons_iff.mp less with head | ⟨head, tail⟩
    · exact .inl head
    · exact .inr ⟨head, ih (Nat.succ.inj length) tail⟩

/-! ### Places -/

theorem exists_eq_append_of_getElem? {l : List α} {i : Nat} {a : α} (h : l[i]? = some a) :
    ∃ before after, l = before ++ a :: after ∧ before.length = i := by
  obtain ⟨lt, rfl⟩ := List.getElem?_eq_some_iff.mp h
  refine ⟨l.take i, l.drop (i + 1), ?_, ?_⟩
  · rw [← List.drop_eq_getElem_cons lt, List.take_append_drop]
  · rw [List.length_take]; omega

theorem set_append_cons {before after : List α} (a b : α) :
    (before ++ a :: after).set before.length b = before ++ b :: after := by
  simp

/-- A member of a list is the one at a place or one of the others. -/
theorem mem_place_iff {before after : List α} {a b : α} :
    b ∈ before ++ a :: after ↔ b = a ∨ b ∈ before ++ after :=
  List.perm_middle.mem_iff.trans List.mem_cons

theorem count_flatMap_place [BEq β] [LawfulBEq β] (f : α → List β) (before after : List α) (a : α)
    (b : β) : ((before ++ a :: after).flatMap f).count b =
      (f a).count b + ((before ++ after).flatMap f).count b := by
  rw [(List.perm_middle.flatMap_right f).count_eq, List.flatMap_cons, List.count_append]

theorem perm_concat_of_middle {l : List α} {a b k : List α} (x : α) (h : (l ++ (a ++ b)).Perm k) :
    (l ++ (a ++ x :: b)).Perm (k ++ [x]) := by
  rw [← List.append_assoc] at h ⊢
  exact List.perm_middle.trans ((h.cons x).trans (List.perm_append_singleton x k).symm)

theorem concat_perm_of_middle {l : List α} {a b k : List α} (x : α)
    (h : (l ++ (a ++ x :: b)).Perm k) : (l ++ [x] ++ (a ++ b)).Perm k := by
  rw [List.append_assoc, List.singleton_append]
  exact (List.perm_middle.symm.append_left l).trans h

/-! ### Keys -/

/-- The value that stands at a key, where no key comes twice. -/
theorem lookup_eq_some_of_mem {a : α} {l : List (String × α)} {name : String}
    (distinct : (l.map Prod.fst).Nodup) (mem : (name, a) ∈ l) : l.lookup name = some a := by
  induction l with
  | nil => exact absurd mem List.not_mem_nil
  | cons first l ih =>
    obtain ⟨fresh, distinct⟩ := List.nodup_cons.mp distinct
    rw [List.lookup_cons]
    rcases List.mem_cons.mp mem with rfl | later
    · rw [beq_self_eq_true]
    · have different : name ≠ first.1 := by
        rintro rfl
        exact fresh (List.mem_map.mpr ⟨_, later, rfl⟩)
      rw [beq_eq_false_iff_ne.mpr different]
      exact ih distinct later

theorem lookup_zip_map [DecidableEq κ] (f : κ → α) {columns : List κ} {k : κ} (mem : k ∈ columns) :
    (columns.zip (columns.map f)).lookup k = some (f k) := by
  induction columns with
  | nil => exact absurd mem List.not_mem_nil
  | cons c columns ih =>
    rw [List.map_cons, List.zip_cons_cons, List.lookup_cons]
    by_cases same : k = c
    · rw [beq_iff_eq.mpr same, same]
    · rw [beq_eq_false_iff_ne.mpr same]
      exact ih ((List.mem_cons.mp mem).resolve_left same)

/-! ### Sums -/

theorem sum_map_replicate [AddMonoid M] (k : Nat) (a : α) (f : α → M) (idle : f a = 0) :
    ((List.replicate k a).map f).sum = 0 := by
  rw [List.map_replicate, List.sum_replicate, idle, nsmul_zero]

end Reminders
