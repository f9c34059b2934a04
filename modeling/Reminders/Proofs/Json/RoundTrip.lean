import Reminders.Proofs.Json.Literals

/-!
Reading what was written.

A value without doubles is found again from its text, up to two things: the members of an object come
in the order of their names, and an integer that does not fit in 64 bits comes as a double.
`Json.reread` says what is read, and that nothing is when such a double would be infinite.

* `Json.value?_chars`: a value in front of other text.
* `Json.parse?_toText`: a whole text.
-/

namespace Reminders.Json

mutual

/-- The value holds no double and is nested no deeper than this. -/
def Legible (depth : Nat) : Json → Prop
  | .float _ => False
  | .arr items => 0 < depth ∧ LegibleItems (depth - 1) items
  | .obj members => 0 < depth ∧ LegibleMembers (depth - 1) members
  | _ => True

def LegibleItems (depth : Nat) : List Json → Prop
  | [] => True
  | item :: items => Legible depth item ∧ LegibleItems depth items

def LegibleMembers (depth : Nat) : List (String × Json) → Prop
  | [] => True
  | (_, value) :: members => Legible depth value ∧ LegibleMembers depth members

end

mutual

/-- The value that the text of a value without doubles is read as. -/
def reread : Json → Option Json
  | .int n => wholeNumber? (decide (n < 0)) n.natAbs
  | .arr items => (rereadItems items).map .arr
  | .obj members => (rereadMembers members).map object
  | v => some v

def rereadItems : List Json → Option (List Json)
  | [] => some []
  | item :: items => do return (← reread item) :: (← rereadItems items)

def rereadMembers : List (String × Json) → Option (List (String × Json))
  | [] => some []
  | (name, value) :: members => do return (name, ← reread value) :: (← rereadMembers members)

end

/-! ### The first character -/

/-- The character is the first one of a numeral. -/
def StartsNumeral (c : Char) : Prop := c = '-' ∨ Numeral.isDigit c = true

theorem StartsNumeral.ne {c d : Char} (starts : StartsNumeral c)
    (other : d ≠ '-' ∧ Numeral.isDigit d = false) : c ≠ d := by
  rintro rfl
  rcases starts with rfl | digit
  · exact other.1 rfl
  · rw [other.2] at digit
    cases digit

theorem StartsNumeral.not_isSpace {c : Char} (starts : StartsNumeral c) : isSpace c = false := by
  have blank := starts.ne (d := ' ') (by decide)
  have line := starts.ne (d := '\n') (by decide)
  have tab := starts.ne (d := '\t') (by decide)
  have back := starts.ne (d := '\r') (by decide)
  simp [isSpace, blank, line, tab, back]

/-- The text of a value starts with a character that is no blank and closes nothing. -/
theorem chars_cons {v : Json} {depth : Nat} (legible : v.Legible depth) :
    ∃ c cs, chars v = c :: cs ∧ isSpace c = false ∧ c ≠ ']' := by
  cases v with
  | null => exact ⟨_, _, rfl, by decide, by decide⟩
  | bool b => cases b <;> exact ⟨_, _, rfl, by decide, by decide⟩
  | int n =>
    obtain ⟨c, cs, text, starts⟩ := signed_cons n
    exact ⟨c, cs, text, StartsNumeral.not_isSpace starts, StartsNumeral.ne starts (by decide)⟩
  | float x => exact legible.elim
  | str s => exact ⟨_, _, rfl, by decide, by decide⟩
  | arr items => cases items <;> exact ⟨_, _, rfl, by decide, by decide⟩
  | obj members => cases members <;> exact ⟨_, _, rfl, by decide, by decide⟩

theorem skipSpace_cons {c : Char} (h : isSpace c = false) (cs : List Char) :
    skipSpace (c :: cs) = c :: cs :=
  List.dropWhile_cons_of_neg (by rw [h]; exact Bool.false_ne_true)

theorem skipSpace_chars {v : Json} {depth : Nat} (legible : v.Legible depth) (rest : List Char) :
    skipSpace (chars v ++ rest) = chars v ++ rest := by
  obtain ⟨c, cs, text, notSpace, -⟩ := chars_cons legible
  rw [text, List.cons_append, skipSpace_cons notSpace]

theorem value?_numeral {c : Char} (starts : StartsNumeral c) (fuel depth : Nat) (cs : List Char) :
    value? (fuel + 1) depth (c :: cs) = number? (c :: cs) := by
  rw [value?, skipSpace_cons starts.not_isSpace]
  split
  · rename_i same
    cases same
  · rename_i same
    exact absurd (List.cons.inj same).1 (starts.ne (by decide))
  · rename_i same
    exact absurd (List.cons.inj same).1 (starts.ne (by decide))
  · rename_i same
    cases same
    rw [if_neg (starts.ne (by decide)), if_neg (starts.ne (by decide)),
      if_neg (starts.ne (by decide)), if_neg (starts.ne (by decide))]

theorem value?_bracket {depth : Nat} (deep : 0 < depth) (fuel : Nat) (cs : List Char) :
    value? (fuel + 1) depth ('[' :: cs) =
      match skipSpace cs with
      | ']' :: after => some (.arr [], after)
      | rest => (items? fuel (depth - 1) rest).map fun (items, after) => (.arr items, after) := by
  rw [value?, skipSpace_cons (by decide)]
  exact if_neg (Nat.ne_of_gt deep)

theorem value?_brace {depth : Nat} (deep : 0 < depth) (fuel : Nat) (cs : List Char) :
    value? (fuel + 1) depth ('\x7b' :: cs) =
      match skipSpace cs with
      | '\x7d' :: after => some (.obj [], after)
      | rest => (members? fuel (depth - 1) rest).map fun (members, after) =>
          (object members, after) := by
  rw [value?, skipSpace_cons (by decide)]
  exact (if_pos rfl).trans (if_neg (Nat.ne_of_gt deep))

theorem ends_restItems (items : List Json) (rest : List Char) : Ends (restItems items ++ rest) := by
  cases items with
  | nil => exact ends_cons (.inr (.inl rfl))
  | cons item items => exact ends_cons (.inl rfl)

theorem ends_restMembers (members : List (String × Json)) (rest : List Char) :
    Ends (restMembers members ++ rest) := by
  cases members with
  | nil => exact ends_cons (.inr (.inr rfl))
  | cons member members => exact ends_cons (.inl rfl)

/-! ### Values -/

mutual

theorem value?_chars (v : Json) {fuel depth : Nat} {rest : List Char} (legible : v.Legible depth)
    (enough : 2 * (chars v).length ≤ fuel) (ends : Ends rest) :
    value? fuel depth (chars v ++ rest) = (reread v).map fun v => (v, rest) := by
  obtain ⟨c, cs, text, notSpace, -⟩ := chars_cons legible
  obtain ⟨fuel, rfl⟩ : ∃ k, fuel = k + 1 :=
    ⟨fuel - 1, by rw [text, List.length_cons] at enough; omega⟩
  cases v with
  | null => rfl
  | bool b => cases b <;> rfl
  | int n =>
    obtain ⟨c, cs, text, starts⟩ := signed_cons n
    rw [chars, text, List.cons_append, value?_numeral starts, ← List.cons_append, ← text,
      number?_signed n ends, reread]
  | float x => exact legible.elim
  | str s =>
    simp only [chars, quoted, List.cons_append, List.append_assoc, List.nil_append, value?,
      skipSpace_cons (show isSpace '"' = false by decide), stringBody_escaped, Option.map_some,
      String.ofList_toList, reread]
  | arr items =>
    obtain ⟨deep, legible⟩ := legible
    cases items with
    | nil =>
      rw [show chars (.arr []) = ['[', ']'] from rfl, List.cons_append, value?_bracket deep,
        List.cons_append, skipSpace_cons (by decide)]
      rfl
    | cons item items =>
      obtain ⟨c, cs, text, notSpace, notEnd⟩ := chars_cons legible.1
      simp only [chars, List.length_cons, List.length_append] at enough
      have read : items? fuel (depth - 1) (chars item ++ restItems items ++ rest) =
          (rereadItems (item :: items)).map fun items => (items, rest) :=
        items?_chars (item :: items) legible rfl (by
          rw [List.length_append]
          omega)
      simp only [chars, List.cons_append, List.append_assoc, value?_bracket deep, reread,
        skipSpace_chars legible.1] at read ⊢
      split
      · rename_i same
        rw [text, List.cons_append, List.cons.injEq] at same
        exact absurd same.1 notEnd
      · rw [read, Option.map_map, Option.map_map]
        rfl
  | obj members =>
    obtain ⟨deep, legible⟩ := legible
    cases members with
    | nil =>
      rw [show chars (.obj []) = ['\x7b', '\x7d'] from rfl, List.cons_append, value?_brace deep,
        List.cons_append, skipSpace_cons (by decide)]
      rfl
    | cons member members =>
      obtain ⟨name, value⟩ := member
      simp only [chars, List.length_cons, List.length_append] at enough
      have read : members? fuel (depth - 1)
          (quoted name ++ ':' :: chars value ++ restMembers members ++ rest) =
            (rereadMembers ((name, value) :: members)).map fun members => (members, rest) :=
        members?_chars ((name, value) :: members) legible rfl (by
          simp only [List.length_append, List.length_cons]
          omega)
      simp only [chars, quoted, List.cons_append, List.append_assoc, value?_brace deep, reread,
        skipSpace_cons (show isSpace '"' = false by decide)] at read ⊢
      refine (congrArg (Option.map _) read).trans ?_
      rw [Option.map_map, Option.map_map]
      rfl

theorem items?_chars (items : List Json) {fuel depth : Nat} {text rest : List Char}
    (legible : LegibleItems depth items) (written : restItems items = ',' :: text)
    (enough : 2 * text.length ≤ fuel) :
    items? fuel depth (text ++ rest) = (rereadItems items).map fun items => (items, rest) := by
  cases items with
  | nil => cases written
  | cons item items =>
    obtain rfl : chars item ++ restItems items = text := (List.cons.inj written).2
    obtain ⟨c, cs, text, -⟩ := chars_cons legible.1
    have first : 0 < (chars item).length := by rw [text]; exact Nat.succ_pos _
    rw [List.length_append] at enough
    obtain ⟨fuel, rfl⟩ : ∃ k, fuel = k + 1 := ⟨fuel - 1, by omega⟩
    have more : 0 < (restItems items).length := by cases items <;> exact Nat.succ_pos _
    have read : value? fuel depth (chars item ++ (restItems items ++ rest)) =
        (reread item).map fun v => (v, restItems items ++ rest) :=
      value?_chars item legible.1 (by omega) (ends_restItems items rest)
    rw [List.append_assoc, items?, read, rereadItems]
    cases reread item with
    | none => rfl
    | some v =>
      cases items with
      | nil => rfl
      | cons next items =>
        have later : items? fuel depth (chars next ++ restItems items ++ rest) =
            (rereadItems (next :: items)).map fun items => (items, rest) :=
          items?_chars (next :: items) legible.2 rfl (by
            simp only [restItems, List.cons_append, List.length_cons] at enough
            omega)
        simp only [restItems, List.cons_append, Option.map_some, Option.bind_eq_bind,
          Option.bind_some, skipSpace_cons (show isSpace ',' = false by decide), later]
        cases rereadItems (next :: items) <;> rfl

theorem members?_chars (members : List (String × Json)) {fuel depth : Nat} {text rest : List Char}
    (legible : LegibleMembers depth members) (written : restMembers members = ',' :: text)
    (enough : 2 * text.length ≤ fuel) :
    members? fuel depth (text ++ rest) =
      (rereadMembers members).map fun members => (members, rest) := by
  cases members with
  | nil => cases written
  | cons member members =>
    obtain ⟨name, value⟩ := member
    obtain rfl : quoted name ++ ':' :: chars value ++ restMembers members = text :=
      (List.cons.inj written).2
    simp only [quoted, List.length_append, List.length_cons] at enough
    obtain ⟨fuel, rfl⟩ : ∃ k, fuel = k + 1 := ⟨fuel - 1, by omega⟩
    have read : value? fuel depth (chars value ++ (restMembers members ++ rest)) =
        (reread value).map fun v => (v, restMembers members ++ rest) :=
      value?_chars value legible.1 (by omega) (ends_restMembers members rest)
    simp only [quoted, List.cons_append, List.append_assoc, List.nil_append, members?,
      skipSpace_cons (show isSpace '"' = false by decide), stringBody_escaped, Option.bind_eq_bind,
      Option.bind_some, skipSpace_cons (show isSpace ':' = false by decide), read, rereadMembers]
    cases reread value with
    | none => rfl
    | some v =>
      cases members with
      | nil =>
        simp only [restMembers, List.cons_append, Option.map_some, Option.bind_some,
          skipSpace_cons (show isSpace '\x7d' = false by decide), String.ofList_toList, rereadMembers]
        rfl
      | cons next members =>
        obtain ⟨nextName, nextValue⟩ := next
        have later : members? fuel depth
            (quoted nextName ++ ':' :: chars nextValue ++ restMembers members ++ rest) =
              (rereadMembers ((nextName, nextValue) :: members)).map fun members => (members, rest) :=
          members?_chars ((nextName, nextValue) :: members) legible.2 rfl (by
            simp only [restMembers, List.cons_append, List.length_cons] at enough
            omega)
        simp only [restMembers, List.cons_append, Option.map_some, Option.bind_some,
          skipSpace_cons (show isSpace ',' = false by decide), String.ofList_toList, later]
        cases rereadMembers ((nextName, nextValue) :: members) <;> rfl

end

/-- **What is read from the text of a value.** -/
theorem parse?_toText {v : Json} (legible : v.Legible maxDepth) : parse? v.toText = reread v := by
  have read : value? (2 * (chars v).length + 2) maxDepth (chars v ++ []) =
      (reread v).map fun v => (v, []) :=
    value?_chars v legible (Nat.le_add_right _ 2) ends_nil
  rw [List.append_nil] at read
  rw [parse?, toText]
  simp only [String.toList_ofList, read]
  cases reread v <;> rfl

/-! ### What is found in it -/

/-- An integer is read as itself or as a double. -/
theorem eq_int_or_float_of_reread {n : Int} {v : Json} (read : reread (.int n) = some v) :
    v = .int n ∨ ∃ x, v = .float x := by
  have double : ∀ {o : Option Float}, o.map Json.float = some v → ∃ x, v = .float x := by
    intro o found
    obtain ⟨x, -, rfl⟩ := Option.map_eq_some_iff.mp found
    exact ⟨x, rfl⟩
  rw [reread, wholeNumber?] at read
  split at read
  · rename_i negative
    have negative := of_decide_eq_true negative
    split at read
    · cases read
      exact .inl (congrArg Json.int (by omega))
    · exact .inr (double read)
  · rename_i notNegative
    rw [decide_eq_true_eq] at notNegative
    split at read
    · cases read
      exact .inl (congrArg Json.int (by omega))
    · exact .inr (double read)

/-- A number that fits in 64 bits, with a sign or without, is read as it was written. -/
theorem reread_int {n : Int} (range : Width.minInt64 ≤ n ∧ n ≤ Width.maxWord64) :
    reread (.int n) = some (.int n) := by
  obtain ⟨low, high⟩ := range
  rw [reread, wholeNumber?]
  by_cases negative : n < 0
  · rw [if_pos (decide_eq_true negative), if_pos (by omega)]
    exact congrArg (fun n => some (Json.int n)) (by omega)
  · rw [if_neg (by simpa using negative), if_pos (by omega)]
    exact congrArg (fun n => some (Json.int n)) (by omega)

theorem reread_int64 {n : Int} (fits : Width.IsInt64 n) :
    reread (.int n) = some (.int n) := by
  refine reread_int ⟨fits.1, Int.le_trans fits.2 ?_⟩
  decide

theorem reread_arr_eq_some_iff {items : List Json} {v : Json} :
    reread (.arr items) = some v ↔ ∃ vs, rereadItems items = some vs ∧ .arr vs = v := by
  rw [reread, Option.map_eq_some_iff]

theorem rereadItems_cons_eq_some_iff {item : Json} {items vs : List Json} :
    rereadItems (item :: items) = some vs ↔
      ∃ w ws, reread item = some w ∧ rereadItems items = some ws ∧ w :: ws = vs := by
  rw [rereadItems]
  cases reread item with
  | none => exact ⟨fun h => (nomatch h), fun ⟨_, _, h, _⟩ => (nomatch h)⟩
  | some w =>
    cases rereadItems items with
    | none => exact ⟨fun h => (nomatch h), fun ⟨_, _, _, h, _⟩ => (nomatch h)⟩
    | some ws =>
      constructor
      · exact fun h => ⟨w, ws, rfl, rfl, Option.some.inj h⟩
      · rintro ⟨_, _, ⟨⟩, ⟨⟩, rfl⟩
        rfl

theorem reread_obj_eq_some_iff {members : List (String × Json)} {v : Json} :
    reread (.obj members) = some v ↔ ∃ ws, rereadMembers members = some ws ∧ object ws = v := by
  rw [reread, Option.map_eq_some_iff]

theorem rereadMembers_cons_eq_some_iff {name : String} {value : Json}
    {members vs : List (String × Json)} :
    rereadMembers ((name, value) :: members) = some vs ↔
      ∃ w ws, reread value = some w ∧ rereadMembers members = some ws ∧ (name, w) :: ws = vs := by
  rw [rereadMembers]
  cases reread value with
  | none => exact ⟨fun h => (nomatch h), fun ⟨_, _, h, _⟩ => (nomatch h)⟩
  | some w =>
    cases rereadMembers members with
    | none => exact ⟨fun h => (nomatch h), fun ⟨_, _, _, h, _⟩ => (nomatch h)⟩
    | some ws =>
      constructor
      · exact fun h => ⟨w, ws, rfl, rfl, Option.some.inj h⟩
      · rintro ⟨_, _, ⟨⟩, ⟨⟩, rfl⟩
        rfl

theorem lookup_insertMember (name n : String) (v : Json) (members : List (String × Json)) :
    (insertMember n v members).lookup name = if name = n then some v else members.lookup name := by
  have first : ∀ {k : String} {w : Json} {rest : List (String × Json)},
      ((k, w) :: rest).lookup name = if name = k then some w else rest.lookup name := by
    intro k w rest
    rw [List.lookup_cons]
    by_cases same : name = k
    · rw [if_pos same, beq_iff_eq.mpr same]
    · rw [if_neg same, beq_eq_false_iff_ne.mpr same]
  induction members with
  | nil => exact first
  | cons member members ih =>
    obtain ⟨m, w⟩ := member
    unfold insertMember
    split
    · exact first
    · split
      · rename_i same
        rw [first, first, same]
        by_cases found : name = m
        · rw [if_pos found, if_pos found]
        · rw [if_neg found, if_neg found, if_neg found]
      · rename_i different
        rw [first, first, ih]
        by_cases found : name = m
        · rw [if_pos found, if_pos found, if_neg fun same => different (same.symm.trans found)]
        · rw [if_neg found, if_neg found]

end Reminders.Json
