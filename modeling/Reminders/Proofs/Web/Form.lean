import Reminders.Proofs.Text.Utf8
import Reminders.Web.Form

/-!
Reading a form.

`Form.read?` takes a form apart: the fields stand between ampersands, the name of a field ends at the
first equals sign, plus signs are spaces, and a percent sign comes before the two digits of an octet.
Whatever characters the names and the values hold, the fields of a form are found again in its text.

* `Form.text?_component`: a name or a value.
* `Form.read?_chars`: a whole form.
-/

namespace Reminders.Form

/-! ### The reader -/

/-- A plus sign stands for a space. -/
def spaced (c : Char) : Char := if c = '+' then ' ' else c

/-- The text of a name or a value as it is written. -/
def text? (cs : List Char) : Option String := Utf8.decode? (Percent.decode (cs.map spaced))

/-- The field that is written between two ampersands. -/
def field? (cs : List Char) : Option (String × String) := do
  return (← text? (cs.takeWhile (· ≠ '=')), ← text? ((cs.dropWhile (· ≠ '=')).drop 1))

/-- The fields of a form. -/
def read? (cs : List Char) : Option (List (String × String)) :=
  ((cs.splitOn '&').filter fun part => !part.isEmpty).mapM field?

/-! ### Characters that are written -/

/-- The characters that take a form apart, and those that do not stand for themselves. -/
def IsMark (c : Char) : Prop := c = '&' ∨ c = '=' ∨ c = '+' ∨ c = '%'

instance (c : Char) : Decidable (IsMark c) := inferInstanceAs (Decidable (_ ∨ _))

theorem not_isMark_of_isPlain {c : Char} (plain : isPlain c = true) : ¬IsMark c := by
  rintro (rfl | rfl | rfl | rfl) <;> revert plain <;> decide

theorem not_isMark_digit {n : Nat} (lt : n < 16) : ¬IsMark (Percent.digit n) := by
  have all : ∀ n < 16, ¬IsMark (Percent.digit n) := by decide
  exact all n lt

theorem hexValue?_digit {n : Nat} (lt : n < 16) : Json.hexValue? (Percent.digit n) = some n := by
  have all : ∀ n < 16, Json.hexValue? (Percent.digit n) = some n := by decide
  exact all n lt

/-- An octet is read behind its percent sign. -/
theorem decode_escape (b : UInt8) (rest : List Char) :
    Percent.decode (Percent.escape b ++ rest) = b :: Percent.decode rest := by
  have lt := b.toNat_lt
  rw [Percent.escape, List.cons_append, List.cons_append, List.cons_append, List.nil_append,
    Percent.decode, hexValue?_digit (by omega), hexValue?_digit (by omega)]
  simp only [show 16 * (b.toNat / 16) + b.toNat % 16 = b.toNat by omega, UInt8.ofNat_toNat]

theorem decode_escapes (bs : List UInt8) (rest : List Char) :
    Percent.decode (bs.flatMap Percent.escape ++ rest) = bs ++ Percent.decode rest := by
  induction bs with
  | nil => rfl
  | cons b bs ih => rw [List.flatMap_cons, List.append_assoc, decode_escape, ih, List.cons_append]

theorem decode_cons {c : Char} (notPercent : c ≠ '%') (rest : List Char) :
    Percent.decode (c :: rest) = String.utf8EncodeChar c ++ Percent.decode rest := by
  rw [Percent.decode]
  rintro a b rest' rfl
  exact absurd rfl notPercent

/-! ### One character -/

/-- The written form of a character. -/
def piece (c : Char) : List Char :=
  if c = ' ' then ['+'] else Percent.encode (fun c => !isPlain c) [c]

/-- A character is a space, stands for itself, or is written by its octets. -/
theorem piece_cases (c : Char) :
    (c = ' ' ∧ piece c = ['+']) ∨ (¬IsMark c ∧ piece c = [c]) ∨
      piece c = (String.utf8EncodeChar c).flatMap Percent.escape := by
  unfold piece
  by_cases space : c = ' '
  · exact .inl ⟨space, if_pos space⟩
  rw [if_neg space, Percent.encode, List.flatMap_cons, List.flatMap_nil, List.append_nil]
  by_cases itself : (c.toNat < 0x80 && !!isPlain c) = true
  · have plain : isPlain c = true := by simpa using (Bool.and_eq_true_iff.mp itself).2
    exact .inr (.inl ⟨not_isMark_of_isPlain plain, if_pos itself⟩)
  · exact .inr (.inr (if_neg itself))

theorem mem_escapes {bs : List UInt8} {c : Char} (mem : c ∈ bs.flatMap Percent.escape) :
    c = '%' ∨ ¬IsMark c := by
  obtain ⟨b, -, mem⟩ := List.mem_flatMap.mp mem
  have lt := b.toNat_lt
  simp only [Percent.escape, List.mem_cons, List.not_mem_nil, or_false] at mem
  obtain rfl | rfl | rfl := mem
  · exact .inl rfl
  · exact .inr (not_isMark_digit (by omega))
  · exact .inr (not_isMark_digit (by omega))

/-- What a character is written by keeps clear of the marks between fields. -/
theorem ne_of_mem_piece {c d : Char} (mem : d ∈ piece c) : d ≠ '&' ∧ d ≠ '=' := by
  have clear {d : Char} (notMark : ¬IsMark d) : d ≠ '&' ∧ d ≠ '=' :=
    ⟨fun same => notMark (.inl same), fun same => notMark (.inr (.inl same))⟩
  obtain ⟨-, written⟩ | ⟨notMark, written⟩ | written := piece_cases c <;> rw [written] at mem
  · cases List.mem_singleton.mp mem
    exact ⟨by decide, by decide⟩
  · cases List.mem_singleton.mp mem
    exact clear notMark
  · obtain rfl | notMark := mem_escapes mem
    · exact ⟨by decide, by decide⟩
    · exact clear notMark

theorem map_spaced_escapes (bs : List UInt8) :
    (bs.flatMap Percent.escape).map spaced = bs.flatMap Percent.escape := by
  have same : ∀ c ∈ bs.flatMap Percent.escape, spaced c = c := by
    intro c mem
    refine if_neg ?_
    rintro rfl
    obtain percent | notMark := mem_escapes mem
    · cases percent
    · exact notMark (.inr (.inr (.inl rfl)))
  exact (List.map_congr_left same).trans (List.map_id _)

/-- A character is read from what it is written by. -/
theorem decode_piece (c : Char) (rest : List Char) :
    Percent.decode ((piece c).map spaced ++ rest) =
      String.utf8EncodeChar c ++ Percent.decode rest := by
  obtain ⟨rfl, written⟩ | ⟨notMark, written⟩ | written := piece_cases c <;> rw [written]
  · exact decode_cons (by decide) rest
  · have notPlus : c ≠ '+' := fun same => notMark (.inr (.inr (.inl same)))
    rw [List.map_singleton, spaced, if_neg notPlus]
    exact decode_cons (fun same => notMark (.inr (.inr (.inr same)))) rest
  · rw [map_spaced_escapes, decode_escapes]

/-! ### Names, values and fields -/

theorem ne_of_mem_component {s : String} {d : Char} (mem : d ∈ component s) :
    d ≠ '&' ∧ d ≠ '=' := by
  obtain ⟨c, -, mem⟩ := List.mem_flatMap.mp mem
  exact ne_of_mem_piece mem

/-- **A name or a value is read as it is from its written form.** -/
theorem text?_component (s : String) : text? (component s) = some s := by
  have read (cs : List Char) :
      Percent.decode ((cs.flatMap piece).map spaced) = cs.flatMap String.utf8EncodeChar := by
    induction cs with
    | nil => rfl
    | cons c cs ih =>
      rw [List.flatMap_cons, List.map_append, decode_piece, ih, List.flatMap_cons]
  rw [text?, component]
  exact (congrArg Utf8.decode? (read s.toList)).trans (Utf8.decode?_bytes s)

theorem field?_fieldChars (field : String × String) : field? (fieldChars field) = some field := by
  have inName : ∀ c ∈ component field.1, decide (c ≠ '=') = true := fun c mem =>
    decide_eq_true (ne_of_mem_component mem).2
  have name : (fieldChars field).takeWhile (· ≠ '=') = component field.1 := by
    rw [fieldChars, List.takeWhile_append_of_pos inName, List.takeWhile_cons_of_neg (by simp),
      List.append_nil]
  have value : ((fieldChars field).dropWhile (· ≠ '=')).drop 1 = component field.2 := by
    rw [fieldChars, List.dropWhile_append_of_pos inName, List.dropWhile_cons_of_neg (by simp)]
    rfl
  rw [field?, name, value, text?_component, text?_component]
  rfl

theorem not_mem_fieldChars (field : String × String) : '&' ∉ fieldChars field := by
  rw [fieldChars, List.mem_append, List.mem_cons]
  rintro (mem | same | mem)
  · exact (ne_of_mem_component mem).1 rfl
  · cases same
  · exact (ne_of_mem_component mem).1 rfl

theorem mapM_field?_map_fieldChars (fields : List (String × String)) :
    (fields.map fieldChars).mapM field? = some fields := by
  induction fields with
  | nil => rfl
  | cons field fields ih =>
    rw [List.map_cons, List.mapM_cons, field?_fieldChars, ih]
    rfl

/-- **The fields of a form are found again in its text.** -/
theorem read?_chars (fields : List (String × String)) : read? (chars fields) = some fields := by
  cases fields with
  | nil => rfl
  | cons field fields =>
    have parts : (chars (field :: fields)).splitOn '&' = (field :: fields).map fieldChars :=
      List.splitOn_intercalate '&' (fun part mem => by
        obtain ⟨field, -, rfl⟩ := List.mem_map.mp mem
        exact not_mem_fieldChars field) (List.cons_ne_nil _ _)
    have kept : ((field :: fields).map fieldChars).filter (fun part => !part.isEmpty) =
        (field :: fields).map fieldChars :=
      List.filter_eq_self.mpr fun part mem => by
        obtain ⟨field, -, rfl⟩ := List.mem_map.mp mem
        simp [fieldChars]
    rw [read?, parts, kept, mapM_field?_map_fieldChars]

end Reminders.Form
