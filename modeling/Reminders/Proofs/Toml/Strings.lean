import Reminders.Toml.Quoted
import Reminders.Toml.Scalar

/-!
Reading strings of TOML again.

A string is written in one of five forms, as its characters allow. Whichever form it is, the string is
found again in it, and what follows is left as it is.

* `Toml.basicBody_escaped`, `Toml.multiBasicBody_escaped`: between double quotes.
* `Toml.literalBody_append`, `Toml.multiLiteralBody_append`: between single quotes.
* `Toml.string?_quoted`: a string of any form at the end of a line.
-/

namespace Reminders.Toml

/-! ### What stands for a character -/

theorem isPlain_of_isControl_eq_false {c : Char} (printable : isControl c = false) :
    isPlain c = true := by
  simp only [isControl, Bool.or_eq_false_iff, decide_eq_false_iff_not, beq_eq_false_iff_ne] at printable
  simp only [isPlain, Bool.or_eq_true, Bool.and_eq_true, decide_eq_true_eq]
  exact .inr ⟨Nat.le_of_not_gt printable.1, printable.2⟩

theorem hexChar?_digits {c : Char} (control : isControl c = true) :
    hexChar? ['0', '0', (Json.hexDigit (c.toNat / 16)).toUpper,
      (Json.hexDigit (c.toNat % 16)).toUpper] = some c := by
  have all : ∀ n < 128, hexChar? ['0', '0', (Json.hexDigit (n / 16)).toUpper,
      (Json.hexDigit (n % 16)).toUpper] = some (Char.ofNat n) := by decide +kernel
  have small : c.toNat < 128 := by
    simp only [isControl, Bool.or_eq_true, decide_eq_true_eq, beq_iff_eq] at control
    omega
  rw [all c.toNat small, Char.ofNat_toNat]

/-- A character between double quotes is the end of a line, has a letter or a number for it behind a
backslash, or stands for itself. -/
theorem escapedChar_cases (multiline : Bool) (c : Char) :
    (multiline = true ∧ c = '\n' ∧ escapedChar multiline c = ['\n']) ∨
    (∃ e, escaped? e = some c ∧ escapedChar multiline c = ['\\', e]) ∨
    (∃ a b, hexChar? ['0', '0', a, b] = some c ∧
      escapedChar multiline c = ['\\', 'u', '0', '0', a, b]) ∨
    (isControl c = false ∧ c ≠ '"' ∧ c ≠ '\\' ∧ escapedChar multiline c = [c]) := by
  unfold escapedChar
  split
  · exact .inr (.inl ⟨_, rfl, rfl⟩)
  · exact .inr (.inl ⟨_, rfl, rfl⟩)
  · cases multiline with
    | true => exact .inl ⟨rfl, rfl, rfl⟩
    | false => exact .inr (.inl ⟨_, rfl, rfl⟩)
  · exact .inr (.inl ⟨_, rfl, rfl⟩)
  · exact .inr (.inl ⟨_, rfl, rfl⟩)
  · exact .inr (.inl ⟨_, rfl, rfl⟩)
  · exact .inr (.inl ⟨_, rfl, rfl⟩)
  · rename_i notQuote notSlash
    by_cases control : isControl c = true
    · exact .inr (.inr (.inl ⟨_, _, hexChar?_digits control, if_pos control⟩))
    · exact .inr (.inr (.inr ⟨Bool.eq_false_iff.mpr control, notQuote, notSlash, if_neg control⟩))

/-! ### Between double quotes -/

theorem basicBody_escapedChar (c : Char) (rest : List Char) :
    basicBody (escapedChar false c ++ rest) =
      (basicBody rest).map fun (cs, after) => (c :: cs, after) := by
  obtain ⟨impossible, -⟩ | ⟨e, read, written⟩ | ⟨a, b, read, written⟩ |
    ⟨printable, notQuote, notSlash, written⟩ := escapedChar_cases false c
  · cases impossible
  · rw [written]
    unfold escaped? at read
    split at read <;> cases read <;> rfl
  · simp only [written, List.cons_append, List.nil_append, basicBody, read]
  · rw [written]
    have plain := isPlain_of_isControl_eq_false printable
    simp [basicBody, plain, notSlash]

/-- A string on one line is found again before its closing quote. -/
theorem basicBody_escaped (cs rest : List Char) :
    basicBody (cs.flatMap (escapedChar false) ++ '"' :: rest) = some (cs, rest) := by
  induction cs with
  | nil => rfl
  | cons c cs ih =>
    rw [List.flatMap_cons, List.append_assoc, basicBody_escapedChar, ih, Option.map_some]

/-- Without three quotes at the front nothing ends. -/
theorem tripleEnd?_eq_none {q : Char} {cs : List Char} (apart : cs.take 3 ≠ [q, q, q]) :
    tripleEnd? q cs = none := by
  unfold tripleEnd?
  split
  · refine if_neg ?_
    rintro ⟨rfl, rfl, rfl⟩
    exact apart rfl
  · rfl

theorem tripleEnd?_cons_of_ne {q c : Char} (other : c ≠ q) (rest : List Char) :
    tripleEnd? q (c :: rest) = none :=
  tripleEnd?_eq_none fun same => other (List.cons.inj same).1

/-- Three quotes end a string, unless more of them follow. -/
theorem tripleEnd?_quotes {q c : Char} (other : c ≠ q) (rest : List Char) :
    tripleEnd? q (q :: q :: q :: c :: rest) = some ([], c :: rest) := by
  cases rest <;> simp [tripleEnd?, other]

/-- A character that needs no escape stands for itself. -/
theorem multiBasicBody_cons {c : Char} (plain : isPlain c = true) (notQuote : c ≠ '"')
    (notSlash : c ≠ '\\') (rest : List Char) :
    multiBasicBody false (c :: rest) =
      (multiBasicBody false rest).map fun (cs, after) => (c :: cs, after) := by
  have notLine : c ≠ '\n' := by
    rintro rfl
    cases plain
  have notReturn : c ≠ '\r' := by
    rintro rfl
    cases plain
  rw [multiBasicBody, tripleEnd?_cons_of_ne notQuote]
  · simp [plain, notSlash]
  all_goals
    intros
    contradiction

theorem multiBasicBody_escapedChar (c : Char) (rest : List Char) :
    multiBasicBody false (escapedChar true c ++ rest) =
      (multiBasicBody false rest).map fun (cs, after) => (c :: cs, after) := by
  obtain ⟨-, rfl, written⟩ | ⟨e, read, written⟩ | ⟨a, b, read, written⟩ |
    ⟨printable, notQuote, notSlash, written⟩ := escapedChar_cases true c
  · rw [written, List.cons_append, List.nil_append, multiBasicBody.eq_def,
      tripleEnd?_cons_of_ne (by decide)]
    rfl
  · rw [written, List.cons_append, List.cons_append, List.nil_append, multiBasicBody.eq_def,
      tripleEnd?_cons_of_ne (by decide)]
    unfold escaped? at read
    split at read <;> cases read <;> rfl
  · rw [written, multiBasicBody.eq_def]
    simp only [List.cons_append, List.nil_append, read]
    rw [tripleEnd?_cons_of_ne (by decide)]
  · rw [written]
    exact multiBasicBody_cons (isPlain_of_isControl_eq_false printable) notQuote notSlash rest

/-- A string of several lines is found again before its closing quotes. -/
theorem multiBasicBody_escaped (cs : List Char) {c : Char} (other : c ≠ '"') (rest : List Char) :
    multiBasicBody false (cs.flatMap (escapedChar true) ++ '"' :: '"' :: '"' :: c :: rest) =
      some (cs, c :: rest) := by
  induction cs with
  | nil => rw [List.flatMap_nil, List.nil_append, multiBasicBody.eq_def, tripleEnd?_quotes other]
  | cons c cs ih =>
    rw [List.flatMap_cons, List.append_assoc, multiBasicBody_escapedChar, ih, Option.map_some]

/-! ### Between single quotes -/

/-- A string without quotes and ends of lines is found again before its closing quote. -/
theorem literalBody_append {cs : List Char} (plain : ∀ c ∈ cs, isPlain c = true ∧ c ≠ '\'')
    (rest : List Char) : literalBody (cs ++ '\'' :: rest) = some (cs, rest) := by
  induction cs with
  | nil => rfl
  | cons c cs ih =>
    obtain ⟨⟨plain, notQuote⟩, later⟩ := List.forall_mem_cons.mp plain
    simp [literalBody, plain, ih later]

/-- A text in which quotes neither come by threes nor last does not end at its beginning. -/
theorem tripleEnd?_append {c : Char} {cs : List Char} (apart : hasTripleQuote (c :: cs) = false)
    (last : (c :: cs).getLast? ≠ some '\'') (rest : List Char) :
    tripleEnd? '\'' (c :: (cs ++ rest)) = none := by
  refine tripleEnd?_eq_none fun same => ?_
  match cs with
  | [] =>
    obtain rfl : c = '\'' := (List.cons.inj same).1
    exact last rfl
  | [d] =>
    obtain rfl : d = '\'' := (List.cons.inj (List.cons.inj same).2).1
    exact last rfl
  | d :: e :: cs =>
    obtain ⟨rfl, rfl, rfl⟩ : c = '\'' ∧ d = '\'' ∧ e = '\'' := by simpa using same
    cases apart

theorem hasTripleQuote_of_cons {c : Char} {cs : List Char}
    (apart : hasTripleQuote (c :: cs) = false) : hasTripleQuote cs = false := by
  unfold hasTripleQuote at apart
  split at apart
  · cases apart
  · rename_i same
    rwa [(List.cons.inj same).2]
  · rename_i same
    cases same

/-- A string in which quotes neither come by threes nor last is found again before three of them. -/
theorem multiLiteralBody_append {cs : List Char} (plain : ∀ c ∈ cs, isPlain c = true ∨ c = '\n')
    (apart : hasTripleQuote cs = false) (last : cs.getLast? ≠ some '\'') {d : Char} (other : d ≠ '\'')
    (rest : List Char) :
    multiLiteralBody (cs ++ '\'' :: '\'' :: '\'' :: d :: rest) = some (cs, d :: rest) := by
  induction cs with
  | nil => rw [List.nil_append, multiLiteralBody.eq_def, tripleEnd?_quotes other]
  | cons c cs ih =>
    obtain ⟨plain, later⟩ := List.forall_mem_cons.mp plain
    have lastLater : cs.getLast? ≠ some '\'' := fun same => last <| by
      rw [List.getLast?_cons, same]
      rfl
    have ih := ih later (hasTripleQuote_of_cons apart) lastLater
    rw [List.cons_append, multiLiteralBody, tripleEnd?_append apart last]
    · simp [plain, ih]
    · rintro _ rfl
      obtain plain | same := plain
      · cases plain
      · cases same

/-! ### All five forms -/

/-- What makes the writer do without escapes. -/
structure Unescaped (cs : List Char) : Prop where
  spares : ∃ c ∈ cs, c = '"' ∨ c = '\\'
  plain : ∀ c ∈ cs, isPlain c = true ∨ c = '\n'
  apart : hasTripleQuote cs = false
  last : cs.getLast? ≠ some '\''

theorem unescaped_of_isLiteral {cs : List Char} (literal : isLiteral cs = true) : Unescaped cs := by
  simp only [isLiteral, Bool.and_eq_true, List.any_eq_true, List.all_eq_true, Bool.or_eq_true,
    beq_iff_eq, Bool.not_eq_true', decide_eq_true_eq] at literal
  obtain ⟨⟨⟨spares, plain⟩, apart⟩, last⟩ := literal
  refine ⟨spares, fun c mem => ?_, apart, last⟩
  obtain (rfl | rfl) | printable := plain c mem
  · exact .inl rfl
  · exact .inr rfl
  · exact .inl (isPlain_of_isControl_eq_false printable)

theorem string?_basic {cs : List Char} (single : ∀ more, cs ≠ '"' :: '"' :: more) :
    string? ('"' :: cs) = basicBody cs := by
  rw [string?]
  exact single

theorem string?_literal {cs : List Char} (single : ∀ more, cs ≠ '\'' :: '\'' :: more) :
    string? ('\'' :: cs) = literalBody cs := by
  rw [string?]
  exact single

/-- What stands for a character between double quotes does not begin with one. -/
theorem escapedChar_cons (multiline : Bool) (c : Char) :
    ∃ d ds, escapedChar multiline c = d :: ds ∧ d ≠ '"' := by
  obtain ⟨-, -, written⟩ | ⟨e, -, written⟩ | ⟨a, b, -, written⟩ | ⟨-, notQuote, -, written⟩ :=
    escapedChar_cases multiline c
  · exact ⟨_, _, written, by decide⟩
  · exact ⟨_, _, written, by decide⟩
  · exact ⟨_, _, written, by decide⟩
  · exact ⟨_, _, written, notQuote⟩

theorem dropLineEnd_cons {c : Char} (notLine : c ≠ '\n') (notReturn : c ≠ '\r') (rest : List Char) :
    dropLineEnd (c :: rest) = c :: rest := by
  rw [dropLineEnd]
  · exact fun _ same => notLine (List.cons.inj same).1
  · exact fun _ same => notReturn (List.cons.inj same).1

/-- A string that is written without escapes is found again. -/
theorem string?_quoted_of_isLiteral {s : String} (literal : isLiteral s.toList = true)
    (rest : List Char) :
    string? ((quoted s).toList ++ '\n' :: rest) = some (s.toList, '\n' :: rest) := by
  have unescaped := unescaped_of_isLiteral literal
  have read : multiLiteralBody (s.toList ++ '\'' :: '\'' :: '\'' :: '\n' :: rest) =
      some (s.toList, '\n' :: rest) :=
    multiLiteralBody_append unescaped.plain unescaped.apart unescaped.last (by decide) rest
  obtain ⟨c, cs, start⟩ : ∃ c cs, s.toList = c :: cs := by
    obtain ⟨c, mem, -⟩ := unescaped.spares
    exact List.exists_cons_of_ne_nil (List.ne_nil_of_mem mem)
  by_cases lines : '\n' ∈ s.toList
  · have text : (quoted s).toList ++ '\n' :: rest =
        '\'' :: '\'' :: '\'' :: '\n' :: (s.toList ++ '\'' :: '\'' :: '\'' :: '\n' :: rest) := by
      simp [quoted, literal, lines]
    rw [text]
    exact read
  by_cases quotes : '\'' ∈ s.toList
  · have text : (quoted s).toList ++ '\n' :: rest =
        '\'' :: '\'' :: '\'' :: (s.toList ++ '\'' :: '\'' :: '\'' :: '\n' :: rest) := by
      simp [quoted, literal, lines, quotes]
    -- The string begins with no end of a line that the reader would drop.
    have plain := (unescaped.plain c (start ▸ List.mem_cons_self)).resolve_right
    have notLine : c ≠ '\n' := fun same => lines (start ▸ same ▸ List.mem_cons_self)
    have notReturn : c ≠ '\r' := by
      rintro rfl
      cases plain notLine
    have kept (after : List Char) : dropLineEnd (s.toList ++ after) = s.toList ++ after := by
      rw [start, List.cons_append, dropLineEnd_cons notLine notReturn]
    rw [text, string?, kept]
    exact read
  · have text : (quoted s).toList ++ '\n' :: rest =
        '\'' :: (s.toList ++ '\'' :: '\n' :: rest) := by
      simp [quoted, literal, lines, quotes]
    have plain : ∀ c ∈ s.toList, isPlain c = true ∧ c ≠ '\'' := fun c mem =>
      ⟨(unescaped.plain c mem).resolve_right fun same => lines (same ▸ mem),
        fun same => quotes (same ▸ mem)⟩
    rw [text, string?_literal, literalBody_append plain]
    intro more same
    rw [start, List.cons_append] at same
    exact (plain c (start ▸ List.mem_cons_self)).2 (List.cons.inj same).1

/-- A string that is written with escapes is found again. -/
theorem string?_quoted_of_not_isLiteral {s : String} (escaped : isLiteral s.toList = false)
    (rest : List Char) :
    string? ((quoted s).toList ++ '\n' :: rest) = some (s.toList, '\n' :: rest) := by
  by_cases lines : '\n' ∈ s.toList
  · have text : (quoted s).toList ++ '\n' :: rest = '"' :: '"' :: '"' :: '\n' ::
        (s.toList.flatMap (escapedChar true) ++ '"' :: '"' :: '"' :: '\n' :: rest) := by
      simp [quoted, escaped, lines]
    rw [text]
    exact multiBasicBody_escaped s.toList (by decide) rest
  · have text : (quoted s).toList ++ '\n' :: rest =
        '"' :: (s.toList.flatMap (escapedChar false) ++ '"' :: '\n' :: rest) := by
      simp [quoted, escaped, lines]
    rw [text, string?_basic, basicBody_escaped]
    intro more same
    cases start : s.toList with
    | nil =>
      rw [start] at same
      cases same
    | cons c cs =>
      obtain ⟨d, ds, written, notQuote⟩ := escapedChar_cons false c
      rw [start, List.flatMap_cons, written] at same
      exact notQuote (List.cons.inj same).1

/-- **A string is found again from its written form** at the end of a line. -/
theorem string?_quoted (s : String) (rest : List Char) :
    string? ((quoted s).toList ++ '\n' :: rest) = some (s.toList, '\n' :: rest) := by
  by_cases literal : isLiteral s.toList = true
  · exact string?_quoted_of_isLiteral literal rest
  · exact string?_quoted_of_not_isLiteral (Bool.eq_false_iff.mpr literal) rest

end Reminders.Toml
