import Reminders.Proofs.Reminder.Rendering

/-!
Groups of braces.

A group is a text without braces between two opening and two closing braces. What is between them is
a name, with blanks around it or not, or something else. In a template that is accepted every group
around a name is one of the fields. A group around anything else is no placeholder: no template is
refused for it, and it stands in the message as it stands in the template.

* `Template.written_iff`: placeholders are the groups around names.
* `Template.segmentsOf_append_group`: a group is read on its own, whatever is in front of it.
* `Template.named_groups_are_fields`
* `Template.hyphenated_group_is_sent`
-/

namespace Reminders

namespace Template

/-! ### Groups -/

/-- Two opening braces, a text and two closing braces. -/
def group (inner : List Char) : List Char := '\x7b' :: '\x7b' :: (inner ++ ['\x7d', '\x7d'])

/-- The text has no brace. -/
def IsBraceFree (cs : List Char) : Prop := ∀ c ∈ cs, c ≠ '\x7b' ∧ c ≠ '\x7d'

instance (cs : List Char) : Decidable (IsBraceFree cs) := List.decidableBAll _ cs

/-- The template has a group around the text, which has no brace itself. -/
def HasGroup (template : String) (inner : List Char) : Prop :=
  IsBraceFree inner ∧ ∃ front back, template.toList = front ++ (group inner ++ back)

variable {name written inner front back rest : List Char}

/-- Characters of a kind that has no braces. -/
theorem isBraceFree_of_forall {p : Char → Bool} (opening : p '\x7b' = false)
    (closing : p '\x7d' = false) (all : ∀ c ∈ inner, p c = true) : IsBraceFree inner := by
  intro c mem
  have kind := all c mem
  constructor
  · rintro rfl
    simp [opening] at kind
  · rintro rfl
    simp [closing] at kind

theorem IsName.isBraceFree (named : IsName name) : IsBraceFree name :=
  isBraceFree_of_forall (by decide) (by decide) named.chars

theorem isBraceFree_of_isBlank (blank : ∀ c ∈ front, isBlank c = true) : IsBraceFree front :=
  isBraceFree_of_forall (by decide) (by decide) blank

theorem IsBraceFree.append {a b : List Char} (ha : IsBraceFree a) (hb : IsBraceFree b) :
    IsBraceFree (a ++ b) := by
  intro c mem
  rcases List.mem_append.mp mem with mem | mem
  · exact ha c mem
  · exact hb c mem

theorem IsName.stripChars_append (named : IsName name) (blankFront : ∀ c ∈ front, isBlank c = true)
    (blankBack : ∀ c ∈ back, isBlank c = true) :
    Text.stripChars isBlank (front ++ (name ++ back)) = name := by
  have reversed : IsName name.reverse :=
    ⟨by simp [named.ne_nil], fun c mem => named.chars c (List.mem_reverse.mp mem)⟩
  have left := reversed.dropWhile_isBlank []
  rw [List.append_nil] at left
  unfold Text.stripChars Text.dropRightWhile
  rw [List.dropWhile_append_of_pos blankFront, named.dropWhile_isBlank, List.reverse_append,
    List.dropWhile_append_of_pos (fun c mem => blankBack c (List.mem_reverse.mp mem)), left,
    List.reverse_reverse]

/-- **Placeholders are the groups around names.** -/
theorem written_iff : Written name written ↔
    ∃ inner, written = group inner ∧ IsBraceFree inner ∧ Text.stripChars isBlank inner = name ∧
      IsName name := by
  constructor
  · intro placeholder
    cases placeholder with
    | @braces front back named blankFront blankBack =>
      refine ⟨front ++ (name ++ back), ?_, ?_, named.stripChars_append blankFront blankBack, named⟩
      · simp [group]
      · exact (isBraceFree_of_isBlank blankFront).append
          (named.isBraceFree.append (isBraceFree_of_isBlank blankBack))
  · rintro ⟨inner, rfl, -, rfl, named⟩
    obtain ⟨front, back, same, blankFront, blankBack⟩ :=
      Text.exists_eq_append_stripChars isBlank inner
    have placeholder := Written.braces named blankFront blankBack
    have whole : front ++ (Text.stripChars isBlank inner ++ (back ++ ['\x7d', '\x7d'])) =
        inner ++ ['\x7d', '\x7d'] := by
      simp only [← List.append_assoc] at same ⊢
      rw [← same]
    rwa [whole] at placeholder

/-- What is between the braces ends at the first closing one. -/
theorem IsBraceFree.eq_of_append_eq {a b s t : List Char} (ha : IsBraceFree a) (hb : IsBraceFree b)
    (same : a ++ '\x7d' :: s = b ++ '\x7d' :: t) : a = b := by
  induction a generalizing b with
  | nil =>
    cases b with
    | nil => rfl
    | cons c b =>
      exact absurd (List.cons.inj same).1.symm (hb c List.mem_cons_self).2
  | cons c a ih =>
    cases b with
    | nil => exact absurd (List.cons.inj same).1 (ha c List.mem_cons_self).2
    | cons d b =>
      simp only [List.cons_append, List.cons.injEq] at same
      obtain ⟨rfl, same⟩ := same
      have later := ih (fun c mem => ha c (List.mem_cons_of_mem _ mem))
        (fun c mem => hb c (List.mem_cons_of_mem _ mem)) same
      rw [later]

/-! ### Reading groups -/

/-- Placeholders begin with two opening braces. -/
theorem Opens.exists_eq_cons {cs : List Char} (opens : Opens cs) :
    ∃ rest, cs = '\x7b' :: '\x7b' :: rest := by
  obtain ⟨name, written, rest, placeholder, rfl⟩ := opens
  cases placeholder
  exact ⟨_, rfl⟩

/-- A placeholder in front of two opening braces ends before them. -/
theorem Opens.of_append (opens : Opens (front ++ '\x7b' :: '\x7b' :: rest))
    (nonempty : front ≠ []) : Opens front := by
  obtain ⟨name, written, behind, placeholder, same⟩ := opens
  obtain ⟨inner, rfl, free, -, -⟩ := written_iff.mp placeholder
  have noOpening : '\x7b' ∉ inner ++ ['\x7d', '\x7d'] := by
    simpa using fun mem => (free _ mem).1 rfl
  rcases List.append_eq_append_iff.mp same with ⟨a, runsOver, tail⟩ | ⟨a, inside, -⟩
  · cases a with
    | nil =>
      rw [List.append_nil] at runsOver
      exact ⟨name, _, [], placeholder, by rw [runsOver, List.append_nil]⟩
    | cons c a =>
      -- The placeholder would run over the two braces, and it has no opening ones but its own first
      -- two.
      simp only [List.cons_append, List.cons.injEq] at tail
      obtain ⟨rfl, tail⟩ := tail
      match front, nonempty with
      | [_], _ =>
        simp only [group, List.cons_append, List.nil_append, List.cons.injEq] at runsOver
        rw [← runsOver.2.2] at tail
        cases inner with
        | nil => cases tail
        | cons e inner => exact absurd (List.cons.inj tail).1.symm (free e List.mem_cons_self).1
      | _ :: _ :: front, _ =>
        simp only [group, List.cons_append, List.cons.injEq] at runsOver
        rw [runsOver.2.2] at noOpening
        simp at noOpening
  · exact ⟨name, _, a, placeholder, inside⟩

/-- **A group is read on its own**, whatever is in front of it. -/
theorem segmentsOf_append_group (front inner back : List Char) :
    segmentsOf (front ++ (group inner ++ back)) =
      segmentsOf front ++ segmentsOf (group inner ++ back) := by
  fun_induction segmentsOf front with
  | case1 front name after found ih =>
    obtain ⟨written, placeholder, rfl⟩ := placeholder?_eq_some_iff.mp found
    rw [List.append_assoc, segmentsOf_written placeholder, ih, List.cons_append]
  | case2 => rfl
  | case3 c rest none ih =>
    have closed : ¬Opens (c :: (rest ++ (group inner ++ back))) := by
      intro opens
      exact placeholder?_eq_none_iff.mp none (Opens.of_append opens (List.cons_ne_nil c rest))
    rw [List.cons_append, segmentsOf_cons closed, ih, List.cons_append]

theorem segmentsOf_group_of_isName (free : IsBraceFree inner)
    (named : IsName (Text.stripChars isBlank inner)) (back : List Char) :
    segmentsOf (group inner ++ back) =
      .placeholder (String.ofList (Text.stripChars isBlank inner)) :: segmentsOf back :=
  segmentsOf_written (written_iff.mpr ⟨inner, rfl, free, rfl, named⟩) back

/-- No placeholder begins in a group around anything but a name. -/
theorem plain_group (free : IsBraceFree inner) (unnamed : ¬IsName (Text.stripChars isBlank inner))
    (back : List Char) : Plain (group inner) back := by
  apply Plain.cons
  · apply Plain.cons
    · -- Behind the two opening braces there is no other one.
      rintro before after same nonempty opens
      obtain ⟨rest, opening⟩ := opens.exists_eq_cons
      obtain ⟨c, after, rfl⟩ := List.exists_cons_of_ne_nil nonempty
      obtain ⟨rfl, -⟩ := List.cons.inj opening
      have mem : '\x7b' ∈ inner ++ ['\x7d', '\x7d'] := by simp [same]
      simp only [List.mem_append, List.mem_cons, List.not_mem_nil, or_false] at mem
      rcases mem with mem | mem
      · exact (free _ mem).1 rfl
      · revert mem
        decide
    · intro opens
      obtain ⟨rest, opening⟩ := opens.exists_eq_cons
      cases inner with
      | nil => cases opening
      | cons c inner =>
        exact absurd (List.cons.inj (List.cons.inj opening).2).1 (free c List.mem_cons_self).1
  · rintro ⟨name, written, rest, placeholder, same⟩
    obtain ⟨inner', rfl, free', rfl, named⟩ := written_iff.mp placeholder
    have same : inner ++ '\x7d' :: '\x7d' :: back = inner' ++ '\x7d' :: '\x7d' :: rest := by
      simpa [group] using same
    rw [free.eq_of_append_eq free' same] at unnamed
    exact unnamed named

/-- Such a group is taken character by character. -/
theorem segmentsOf_group_of_not_isName (free : IsBraceFree inner)
    (unnamed : ¬IsName (Text.stripChars isBlank inner)) (back : List Char) :
    segmentsOf (group inner ++ back) = (group inner).map .literal ++ segmentsOf back :=
  (plain_group free unnamed back).segmentsOf_append

/-- Every placeholder is a group of the template around its name. -/
theorem exists_group_of_mem {cs : List Char} {name : String}
    (mem : Segment.placeholder name ∈ segmentsOf cs) :
    ∃ inner front back, IsBraceFree inner ∧ cs = front ++ (group inner ++ back) ∧
      IsName (Text.stripChars isBlank inner) ∧
        String.ofList (Text.stripChars isBlank inner) = name := by
  fun_induction segmentsOf cs with
  | case1 cs taken after found ih =>
    obtain ⟨written, placeholder, rfl⟩ := placeholder?_eq_some_iff.mp found
    rcases List.mem_cons.mp mem with same | mem
    · cases same
      obtain ⟨inner, rfl, free, rfl, named⟩ := written_iff.mp placeholder
      exact ⟨inner, [], after, free, rfl, named, rfl⟩
    · obtain ⟨inner, front, back, free, rfl, named⟩ := ih mem
      exact ⟨inner, written ++ front, back, free, (List.append_assoc ..).symm, named⟩
  | case2 => cases mem
  | case3 c rest none ih =>
    rcases List.mem_cons.mp mem with same | mem
    · cases same
    · obtain ⟨inner, front, back, free, rfl, named⟩ := ih mem
      exact ⟨inner, c :: front, back, free, rfl, named⟩

/-! ### Templates with groups -/

open TemplateField

variable {template : String}

theorem mem_names_iff {name : String} :
    name ∈ names template ↔ Segment.placeholder name ∈ segments template := by
  unfold names
  rw [List.mem_filterMap]
  constructor
  · rintro ⟨piece, mem, named⟩
    cases piece with
    | literal c => cases named
    | placeholder name => cases named; exact mem
  · intro mem
    exact ⟨_, mem, rfl⟩

/-- The names of a template are what its groups around names are about. -/
theorem mem_names_iff_hasGroup {name : String} :
    name ∈ names template ↔ ∃ inner, HasGroup template inner ∧
      IsName (Text.stripChars isBlank inner) ∧
        String.ofList (Text.stripChars isBlank inner) = name := by
  rw [mem_names_iff]
  constructor
  · intro mem
    obtain ⟨inner, front, back, free, cut, named, same⟩ := exists_group_of_mem mem
    exact ⟨inner, ⟨free, front, back, cut⟩, named, same⟩
  · rintro ⟨inner, ⟨free, front, back, cut⟩, named, rfl⟩
    unfold segments
    rw [cut, segmentsOf_append_group, segmentsOf_group_of_isName free named]
    simp

/-- A group around anything but a name stands in what the template is filled to. -/
theorem HasGroup.exists_filled (has : HasGroup template inner)
    (unnamed : ¬IsName (Text.stripChars isBlank inner)) (values : TemplateField → String) :
    ∃ front back, (filled template values).toList = front ++ (group inner ++ back) := by
  obtain ⟨free, front, back, cut⟩ := has
  have literal (cs : List Char) : (cs.map .literal).flatMap (Segment.fill values) = cs := by
    induction cs with
    | nil => rfl
    | cons c cs ih => rw [List.map_cons, List.flatMap_cons, ih]; rfl
  refine ⟨(segmentsOf front).flatMap (Segment.fill values),
    (segmentsOf back).flatMap (Segment.fill values), ?_⟩
  unfold filled segments
  rw [cut, segmentsOf_append_group, segmentsOf_group_of_not_isName free unnamed]
  simp [literal]

/-- Trimming leaves groups alone. -/
theorem group_isInfix_trim {text : String} (cut : text.toList = front ++ (group inner ++ back)) :
    group inner <:+: (Text.trim text).toList := by
  have ends : group inner = '\x7b' :: ('\x7b' :: (inner ++ ['\x7d']) ++ ['\x7d']) := by
    simp [group]
  unfold Text.trim
  rw [cut, String.toList_ofList, ends, Text.stripChars_append (by decide) (by decide)]
  exact ⟨front.dropWhile isBlank, Text.dropRightWhile isBlank back, List.append_assoc ..⟩

/-- **A template is accepted as soon as its groups around names are fields.** A group around
anything else is not looked at: it is in every message that such a template makes, as it is
written. -/
theorem named_groups_are_fields (template : String) :
    (validate template = .ok () ↔ ∀ inner, HasGroup template inner →
      IsName (Text.stripChars isBlank inner) →
        IsTag (String.ofList (Text.stripChars isBlank inner))) ∧
    (validate template = .ok () → ∀ inner, HasGroup template inner →
      ¬IsName (Text.stripChars isBlank inner) → ∀ values, ∃ message,
        render template values = .ok message ∧ group inner <:+: message.toList) := by
  constructor
  · obtain ⟨r, reads⟩ : ∃ r, Reads template.toList r := ⟨_, reads_iff.mpr rfl⟩
    rw [validate_eq_ok_iff reads, Reading.NamesFields, ← names_eq reads]
    simp only [mem_names_iff_hasGroup]
    constructor
    · intro fields inner has named
      exact fields _ ⟨inner, has, named, rfl⟩
    · rintro fields _ ⟨inner, has, named, rfl⟩
      exact fields inner has named
  · intro accepted inner has unnamed values
    obtain ⟨front, back, cut⟩ := has.exists_filled unnamed values
    refine ⟨Text.trim (filled template values), ?_, group_isInfix_trim cut⟩
    rw [render_eq_ok_iff]
    refine ⟨accepted, ?_, rfl⟩
    intro blank
    have brace : isBlank '\x7b' = true := by
      apply blank
      rw [cut]
      simp [group]
    revert brace
    decide

namespace Sample

/-- A field whose name is misspelt. -/
def hyphenated : String := "Hi \x7b\x7buser-email\x7d\x7d"

end Sample

/-- A template with a group around no field is accepted, and the message is the template itself. -/
theorem hyphenated_group_is_sent :
    HasGroup Sample.hyphenated "user-email".toList ∧ validate Sample.hyphenated = .ok () ∧
      ¬IsTag (String.ofList (Text.stripChars isBlank "user-email".toList)) ∧
        ∀ values, render Sample.hyphenated values = .ok Sample.hyphenated := by
  have trimmed : Text.stripChars isBlank "user-email".toList = "user-email".toList := by decide
  have accepted : validate Sample.hyphenated = .ok () := by decide +kernel
  have literal : segments Sample.hyphenated = Sample.hyphenated.toList.map .literal := by
    decide +kernel
  refine ⟨⟨by decide, "Hi ".toList, [], by decide⟩, accepted, ?_, ?_⟩
  · rw [trimmed, ← isNone_ofTag?_iff]
    decide
  · intro values
    have same : filled Sample.hyphenated values = Sample.hyphenated := by
      rw [filled, literal]
      rfl
    rw [render_eq, accepted, same]
    decide +kernel

end Template

end Reminders
