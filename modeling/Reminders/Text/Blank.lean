/-!
Blank characters and trimming.

A character is blank when it has the property White_Space. Trimming drops the blanks at both ends
of a text and keeps those between: `trim_idem` says that a trimmed text is left alone.
-/

namespace Reminders

/-- The characters with the property White_Space. -/
def isBlank (c : Char) : Bool :=
  (0x09 ≤ c.val && c.val ≤ 0x0D) || c.val = 0x20 || c.val = 0x85 || c.val = 0xA0 ||
  c.val = 0x1680 || (0x2000 ≤ c.val && c.val ≤ 0x200A) || c.val = 0x2028 || c.val = 0x2029 ||
  c.val = 0x202F || c.val = 0x205F || c.val = 0x3000

namespace Text

/-- Drops the characters at the end that satisfy `p`. -/
def dropRightWhile (p : Char → Bool) (cs : List Char) : List Char :=
  (cs.reverse.dropWhile p).reverse

/-- Drops the characters at both ends that satisfy `p`. -/
def stripChars (p : Char → Bool) (cs : List Char) : List Char := dropRightWhile p (cs.dropWhile p)

/-- Drops the blanks at both ends. -/
def trim (s : String) : String := String.ofList (stripChars isBlank s.toList)

/-- Drops every `c` at the end. -/
def trimRight (c : Char) (s : String) : String := String.ofList (dropRightWhile (· == c) s.toList)

/-- Drops every `c` at both ends. -/
def trimBoth (c : Char) (s : String) : String := String.ofList (stripChars (· == c) s.toList)

/-- A text of blanks only. -/
def IsBlankText (s : String) : Prop := ∀ c ∈ s.toList, isBlank c = true

-- There are finitely many characters, but only those of the text are to be looked at.
instance (s : String) : Decidable (IsBlankText s) := List.decidableBAll _ s.toList

/-- A text of ASCII letters is written in capitals; all other characters stay. -/
def upperAscii (s : String) : String := String.ofList (s.toList.map Char.toUpper)

theorem dropWhile_eq_nil {p : Char → Bool} :
    ∀ {cs : List Char}, cs.dropWhile p = [] ↔ ∀ c ∈ cs, p c = true
  | [] => by simp
  | c :: cs => by
    by_cases h : p c = true
    · rw [List.dropWhile_cons_of_pos h, dropWhile_eq_nil]; simp [h]
    · rw [List.dropWhile_cons_of_neg h]; simp [h]

theorem dropRightWhile_eq_nil {p : Char → Bool} {cs : List Char} :
    dropRightWhile p cs = [] ↔ ∀ c ∈ cs, p c = true := by
  unfold dropRightWhile
  rw [List.reverse_eq_nil_iff, dropWhile_eq_nil]
  simp

theorem stripChars_eq_nil_iff {p : Char → Bool} {cs : List Char} :
    stripChars p cs = [] ↔ ∀ c ∈ cs, p c = true := by
  unfold stripChars
  rw [dropRightWhile_eq_nil]
  constructor
  · intro h c hc
    rw [← List.takeWhile_append_dropWhile (p := p) (l := cs)] at hc
    rcases List.mem_append.mp hc with hc | hc
    · exact List.all_eq_true.mp List.all_takeWhile c hc
    · exact h c hc
  · intro h c hc
    exact h c ((List.dropWhile_sublist p).subset hc)

/-- Nothing is left of a text exactly when it is blank. -/
theorem trim_eq_empty_iff {s : String} : trim s = "" ↔ IsBlankText s := by
  unfold trim IsBlankText
  rw [← stripChars_eq_nil_iff, ← String.toList_inj]
  simp

theorem dropWhile_idem (p : Char → Bool) (cs : List Char) :
    (cs.dropWhile p).dropWhile p = cs.dropWhile p := by
  induction cs with
  | nil => rfl
  | cons c cs ih =>
    by_cases h : p c = true
    · rw [List.dropWhile_cons_of_pos h]; exact ih
    · rw [List.dropWhile_cons_of_neg h, List.dropWhile_cons_of_neg h]

/-- Dropping stops at a character that does not satisfy the condition. -/
theorem dropWhile_append_cons {p : Char → Bool} {c : Char} (stops : ¬p c = true)
    (front back : List Char) :
    (front ++ c :: back).dropWhile p = front.dropWhile p ++ c :: back := by
  rw [List.dropWhile_append]
  split
  · rename_i empty
    rw [List.isEmpty_iff.mp empty, List.dropWhile_cons_of_neg stops, List.nil_append]
  · rfl

theorem dropWhile_dropRightWhile (p : Char → Bool) {cs : List Char} (h : cs.dropWhile p = cs) :
    (dropRightWhile p cs).dropWhile p = dropRightWhile p cs := by
  cases cs with
  | nil => rfl
  | cons c cs =>
    have hc : ¬ p c = true := by
      intro hc
      rw [List.dropWhile_cons_of_pos hc] at h
      have := congrArg List.length h
      have := (List.dropWhile_sublist (l := cs) p).length_le
      simp at *
      omega
    unfold dropRightWhile
    rw [List.reverse_cons, dropWhile_append_cons hc, List.reverse_append]
    simp [List.dropWhile_cons_of_neg hc]

theorem stripChars_idem (p : Char → Bool) (cs : List Char) :
    stripChars p (stripChars p cs) = stripChars p cs := by
  have h := dropWhile_dropRightWhile p (dropWhile_idem p cs)
  unfold stripChars
  rw [h]
  unfold dropRightWhile
  rw [List.reverse_reverse, dropWhile_idem]

/-- What is trimmed off satisfies the condition, on either side. -/
theorem exists_eq_append_stripChars (p : Char → Bool) (cs : List Char) :
    ∃ front back, cs = front ++ (stripChars p cs ++ back) ∧ (∀ c ∈ front, p c = true) ∧
      ∀ c ∈ back, p c = true := by
  have taken (ds : List Char) : ∀ c ∈ ds.takeWhile p, p c = true :=
    List.all_eq_true.mp List.all_takeWhile
  refine ⟨cs.takeWhile p, ((cs.dropWhile p).reverse.takeWhile p).reverse, ?_, taken cs, ?_⟩
  · unfold stripChars dropRightWhile
    rw [← List.reverse_append, List.takeWhile_append_dropWhile, List.reverse_reverse,
      List.takeWhile_append_dropWhile]
  · intro c mem
    exact taken _ c (List.mem_reverse.mp mem)

/-- Trimming stops at the ends of a part that begins and ends with something else. -/
theorem stripChars_append {p : Char → Bool} {first last : Char} (firstStops : ¬p first = true)
    (lastStops : ¬p last = true) (front middle back : List Char) :
    stripChars p (front ++ (first :: (middle ++ [last]) ++ back)) =
      front.dropWhile p ++ (first :: (middle ++ [last]) ++ dropRightWhile p back) := by
  unfold stripChars dropRightWhile
  rw [List.cons_append, dropWhile_append_cons firstStops]
  have reversed : (front.dropWhile p ++ first :: (middle ++ [last] ++ back)).reverse =
      back.reverse ++ last :: (front.dropWhile p ++ first :: middle).reverse := by simp
  rw [reversed, dropWhile_append_cons lastStops]
  simp

/-- A trimmed text is left alone. -/
theorem trim_idem (s : String) : trim (trim s) = trim s := by
  unfold trim
  rw [String.toList_ofList, stripChars_idem]

end Text

end Reminders
