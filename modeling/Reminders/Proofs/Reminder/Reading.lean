import Reminders.Reminder.Template

/-!
How a template is read.

A placeholder is two opening braces, a name and two closing braces, with blanks around the name if
one likes. A template is read from left to right: the first place where a placeholder stands is
taken, and reading goes on behind it. `Template.Reads` says so without a word on how it is done, as
a relation between a template and a `Template.Reading`, which is the placeholders in their order with
the texts between them.

* `Template.placeholder?_eq_some_iff`: what is taken for a placeholder.
* `Template.reads_iff`: every template has one reading, and its pieces are those of the reading.
-/

namespace Reminders.Template

/-! ### Placeholders -/

/-- A name: letters, digits and underscores, at least one. -/
structure IsName (name : List Char) : Prop where
  ne_nil : name ≠ []
  chars : ∀ c ∈ name, isNameChar c = true

/-- A placeholder of a name as it is written. -/
inductive Written (name : List Char) : List Char → Prop
  | braces {front back : List Char} (named : IsName name)
      (blankFront : ∀ c ∈ front, isBlank c = true) (blankBack : ∀ c ∈ back, isBlank c = true) :
      Written name ('\x7b' :: '\x7b' :: (front ++ (name ++ (back ++ ['\x7d', '\x7d']))))

/-- A placeholder stands at the front. -/
def Opens (cs : List Char) : Prop :=
  ∃ name written rest, Written name written ∧ cs = written ++ rest

variable {name written rest cs : List Char}

/-- The characters of names are not blank. -/
theorem isBlank_eq_false_of_isNameChar {c : Char} (inName : isNameChar c = true) :
    isBlank c = false := by
  simp only [isNameChar, Bool.or_eq_true, Bool.and_eq_true, decide_eq_true_eq, beq_iff_eq] at inName
  simp only [isBlank, Bool.or_eq_false_iff, Bool.and_eq_false_iff, decide_eq_false_iff_not,
    UInt32.le_iff_toNat_le, ← UInt32.toNat_inj, UInt32.reduceToNat]
  rcases inName with ((⟨low, high⟩ | ⟨low, high⟩) | ⟨low, high⟩) | rfl
  · have low : 97 ≤ c.val.toNat := low
    have high : c.val.toNat ≤ 122 := high
    omega
  · have low : 65 ≤ c.val.toNat := low
    have high : c.val.toNat ≤ 90 := high
    omega
  · have low : 48 ≤ c.val.toNat := low
    have high : c.val.toNat ≤ 57 := high
    omega
  · decide

theorem IsName.dropWhile_isBlank (named : IsName name) (rest : List Char) :
    (name ++ rest).dropWhile isBlank = name ++ rest := by
  obtain ⟨c, cs, rfl⟩ := List.exists_cons_of_ne_nil named.ne_nil
  have notBlank := isBlank_eq_false_of_isNameChar (named.chars c List.mem_cons_self)
  exact List.dropWhile_cons_of_neg (by simp [notBlank])

/-- Behind a name come blanks or a brace, so the name ends there. -/
theorem exists_cons_not_isNameChar (blank : ∀ c ∈ cs, isBlank c = true) (rest : List Char) :
    ∃ c tail, cs ++ '\x7d' :: rest = c :: tail ∧ ¬isNameChar c = true := by
  cases cs with
  | nil => exact ⟨_, _, rfl, by decide⟩
  | cons c tail =>
    refine ⟨c, _, rfl, ?_⟩
    intro inName
    have blank := blank c List.mem_cons_self
    simp [isBlank_eq_false_of_isNameChar inName] at blank

/-- A placeholder that is written is read, whatever follows. -/
theorem Written.placeholder? (placeholder : Written name written) (rest : List Char) :
    placeholder? (written ++ rest) = some (name, rest) := by
  cases placeholder with
  | @braces front back named blankFront blankBack =>
    have inner : (front ++ (name ++ (back ++ ['\x7d', '\x7d'])) ++ rest).dropWhile isBlank =
        name ++ (back ++ '\x7d' :: '\x7d' :: rest) := by
      simp only [List.append_assoc, List.cons_append, List.nil_append]
      rw [List.dropWhile_append_of_pos blankFront, named.dropWhile_isBlank]
    obtain ⟨c, tail, behind, stops⟩ := exists_cons_not_isNameChar blankBack ('\x7d' :: rest)
    have taken : (name ++ (back ++ '\x7d' :: '\x7d' :: rest)).takeWhile isNameChar = name := by
      rw [List.takeWhile_append_of_pos named.chars, behind, List.takeWhile_cons_of_neg stops,
        List.append_nil]
    have left : (name ++ (back ++ '\x7d' :: '\x7d' :: rest)).dropWhile isNameChar =
        back ++ '\x7d' :: '\x7d' :: rest := by
      rw [List.dropWhile_append_of_pos named.chars, behind, List.dropWhile_cons_of_neg stops]
    have closing : (back ++ '\x7d' :: '\x7d' :: rest).dropWhile isBlank =
        '\x7d' :: '\x7d' :: rest := by
      rw [List.dropWhile_append_of_pos blankBack]
      exact List.dropWhile_cons_of_neg (by decide)
    simp only [Template.placeholder?, List.cons_append, inner, taken, left, closing,
      if_neg named.ne_nil]

/-- **What is taken for a placeholder** is a placeholder that is written at the front. -/
theorem placeholder?_eq_some_iff :
    placeholder? cs = some (name, rest) ↔
      ∃ written, Written name written ∧ cs = written ++ rest := by
  constructor
  · intro found
    unfold placeholder? at found
    split at found
    · rename_i inner
      simp only at found
      split at found
      · cases found
      · rename_i nonempty
        split at found
        · rename_i closing
          cases found
          have blank (cs : List Char) : ∀ c ∈ cs.takeWhile isBlank, isBlank c = true :=
            List.all_eq_true.mp List.all_takeWhile
          have named : IsName ((inner.dropWhile isBlank).takeWhile isNameChar) :=
            ⟨nonempty, List.all_eq_true.mp List.all_takeWhile⟩
          refine ⟨_, .braces named (blank inner)
            (blank ((inner.dropWhile isBlank).dropWhile isNameChar)), ?_⟩
          simp only [List.cons_append, List.append_assoc, List.nil_append, ← closing,
            List.takeWhile_append_dropWhile]
        · cases found
    · cases found
  · rintro ⟨written, placeholder, rfl⟩
    exact placeholder.placeholder? rest

theorem placeholder?_eq_none_iff : placeholder? cs = none ↔ ¬Opens cs := by
  constructor
  · rintro none ⟨name, written, rest, placeholder, rfl⟩
    rw [placeholder.placeholder?] at none
    cases none
  · intro closed
    cases found : placeholder? cs with
    | none => rfl
    | some p =>
      obtain ⟨written, placeholder, same⟩ := placeholder?_eq_some_iff.mp found
      exact absurd ⟨p.1, written, p.2, placeholder, same⟩ closed

/-! ### Pieces -/

theorem segmentsOf_nil : segmentsOf [] = [] := by
  rw [segmentsOf]
  rfl

theorem segmentsOf_written (placeholder : Written name written) (rest : List Char) :
    segmentsOf (written ++ rest) = .placeholder (String.ofList name) :: segmentsOf rest := by
  rw [segmentsOf]
  split
  · rename_i found
    rw [placeholder.placeholder?] at found
    cases found
    rfl
  · rename_i found
    rw [placeholder.placeholder?] at found
    cases found

theorem segmentsOf_cons {c : Char} (closed : ¬Opens (c :: rest)) :
    segmentsOf (c :: rest) = .literal c :: segmentsOf rest := by
  rw [segmentsOf]
  split
  · rename_i found
    rw [placeholder?_eq_none_iff.mpr closed] at found
    cases found
  · rfl

/-! ### Readings -/

/-- A template cut at its placeholders. -/
structure Reading where
  /-- The placeholders in their order, each name with the text in front of it. -/
  placeholders : List (List Char × String)
  /-- The text behind the last placeholder. -/
  tail : List Char

/-- No placeholder begins within a text with a rest behind it. -/
def Plain (text rest : List Char) : Prop :=
  ∀ front back, text = front ++ back → back ≠ [] → ¬Opens (back ++ rest)

/-- A template is read: the text up to the first placeholder, that placeholder, and in the same way
what is behind it. -/
inductive Reads : List Char → Reading → Prop
  | last {text : List Char} (plain : Plain text []) : Reads text ⟨[], text⟩
  | next {text name written rest : List Char} {later : Reading}
      (plain : Plain text (written ++ rest)) (placeholder : Written name written) (reads : Reads rest later) :
      Reads (text ++ (written ++ rest))
        ⟨(text, String.ofList name) :: later.placeholders, later.tail⟩

namespace Reading

/-- The names of the placeholders in their order. -/
def names (r : Reading) : List String := r.placeholders.map Prod.snd

/-- One more character in front. -/
def push (c : Char) (r : Reading) : Reading :=
  match r.placeholders with
  | [] => ⟨[], c :: r.tail⟩
  | (text, name) :: later => ⟨(c :: text, name) :: later, r.tail⟩

/-- The reading that has these pieces. -/
def ofSegments : List Segment → Reading
  | [] => ⟨[], []⟩
  | .literal c :: rest => (ofSegments rest).push c
  | .placeholder name :: rest =>
    ⟨([], name) :: (ofSegments rest).placeholders, (ofSegments rest).tail⟩

theorem foldr_push_last (text tail : List Char) :
    text.foldr push ⟨[], tail⟩ = ⟨[], text ++ tail⟩ := by
  induction text with
  | nil => rfl
  | cons c text ih => rw [List.foldr_cons, ih]; rfl

theorem foldr_push_next (text front : List Char) (name : String)
    (later : List (List Char × String)) (tail : List Char) :
    text.foldr push ⟨(front, name) :: later, tail⟩ = ⟨(text ++ front, name) :: later, tail⟩ := by
  induction text with
  | nil => rfl
  | cons c text ih => rw [List.foldr_cons, ih]; rfl

theorem ofSegments_literals (text : List Char) (rest : List Segment) :
    ofSegments (text.map .literal ++ rest) = text.foldr push (ofSegments rest) := by
  induction text with
  | nil => rfl
  | cons c text ih =>
    rw [List.map_cons, List.cons_append, ofSegments, ih]
    rfl

end Reading

namespace Plain

variable {text : List Char}

theorem nil (rest : List Char) : Plain [] rest := by
  intro front back same nonempty
  exact absurd (List.append_eq_nil_iff.mp same.symm).2 nonempty

theorem cons {c : Char} (plain : Plain text rest) (closed : ¬Opens (c :: (text ++ rest))) :
    Plain (c :: text) rest := by
  intro front back same nonempty
  cases front with
  | nil =>
    rw [List.nil_append] at same
    rwa [← same]
  | cons d front => exact plain front back (List.cons.inj same).2 nonempty

theorem of_cons {c : Char} (plain : Plain (c :: text) rest) :
    ¬Opens (c :: (text ++ rest)) ∧ Plain text rest := by
  constructor
  · exact plain [] (c :: text) rfl nofun
  · intro front back same
    exact plain (c :: front) back (congrArg (c :: ·) same)

/-- A text in which no placeholder begins is taken character by character. -/
theorem segmentsOf_append (plain : Plain text rest) :
    segmentsOf (text ++ rest) = text.map .literal ++ segmentsOf rest := by
  induction text with
  | nil => rfl
  | cons c text ih =>
    obtain ⟨closed, later⟩ := plain.of_cons
    rw [List.cons_append, segmentsOf_cons closed, ih later]
    rfl

end Plain

theorem Reads.push {r : Reading} {c : Char} (reads : Reads rest r) (closed : ¬Opens (c :: rest)) :
    Reads (c :: rest) (r.push c) := by
  cases reads with
  | last plain =>
    apply Reads.last
    apply plain.cons
    rwa [List.append_nil]
  | next plain placeholder reads => exact .next (plain.cons closed) placeholder reads

theorem reads_ofSegments (cs : List Char) : Reads cs (.ofSegments (segmentsOf cs)) := by
  fun_induction segmentsOf cs with
  | case1 cs name after found ih =>
    obtain ⟨written, placeholder, rfl⟩ := placeholder?_eq_some_iff.mp found
    exact .next (.nil _) placeholder ih
  | case2 => exact .last (.nil [])
  | case3 c rest none ih => exact ih.push (placeholder?_eq_none_iff.mp none)

/-- **Every template has one reading**, and its pieces are those of the reading. -/
theorem reads_iff {r : Reading} : Reads cs r ↔ r = .ofSegments (segmentsOf cs) := by
  constructor
  · intro reads
    induction reads with
    | @last text plain =>
      have pieces := plain.segmentsOf_append
      rw [List.append_nil] at pieces
      rw [pieces, segmentsOf_nil, Reading.ofSegments_literals, Reading.ofSegments,
        Reading.foldr_push_last, List.append_nil]
    | next plain placeholder reads ih =>
      rw [plain.segmentsOf_append, segmentsOf_written placeholder, Reading.ofSegments_literals,
        Reading.ofSegments, Reading.foldr_push_next, List.append_nil, ← ih]
  · rintro rfl
    exact reads_ofSegments cs

end Reminders.Template
