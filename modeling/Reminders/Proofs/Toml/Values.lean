import Reminders.Proofs.Json.Literals
import Reminders.Proofs.Toml.Strings
import Reminders.Toml.Parser

/-!
Reading keys and values of TOML again.

A string or an integer that stands at the end of a line is found again from its written form, and so
is a key that needs no quotes.

* `Toml.integer?_signed`
* `Toml.writes_quoted`, `Toml.writes_signed`
* `Toml.key?_bare`
-/

namespace Reminders.Toml

/-! ### Integers -/

theorem mem_signed {n : Int} {c : Char} (mem : c ∈ Numeral.signed n) :
    c = '-' ∨ Numeral.isDigit c = true := by
  unfold Numeral.signed at mem
  split at mem
  · exact (List.mem_cons.mp mem).imp_right Numeral.isDigit_of_mem_digits
  · exact .inr (Numeral.isDigit_of_mem_digits mem)

/-- A character that is in no numeral of an integer. -/
theorem not_mem_signed {n : Int} {c : Char} (other : c ≠ '-' ∧ Numeral.isDigit c = false) :
    c ∉ Numeral.signed n := fun mem => by
  obtain minus | digit := mem_signed mem
  · exact other.1 minus
  · rw [other.2] at digit
    cases digit

theorem isScalarChar_of_mem_signed {n : Int} {c : Char} (mem : c ∈ Numeral.signed n) :
    isScalarChar c = true := by
  obtain rfl | digit := mem_signed mem
  · rfl
  · have digit : c.isDigit = true := by
      simpa [Numeral.isDigit, Char.isDigit, Char.le_def] using digit
    simp [isScalarChar, Char.isAlphanum, digit]

theorem digitRun_of_forall {cs : List Char} (some : cs ≠ [])
    (digits : ∀ c ∈ cs, Numeral.isDigit c = true) : digitRun Numeral.isDigit cs = true := by
  induction cs with
  | nil => exact absurd rfl some
  | cons c cs ih =>
    obtain ⟨digit, later⟩ := List.forall_mem_cons.mp digits
    cases cs with
    | nil => exact digit
    | cons d cs =>
      have notMark : d ≠ '_' := by
        rintro rfl
        cases later '_' List.mem_cons_self
      rw [digitRun, digit, ih (List.cons_ne_nil _ _) later]
      · rfl
      · exact notMark

theorem plainDigits_digits (n : Nat) : plainDigits (Numeral.digits n) = true := by
  have run : digitRun Numeral.isDigit (Numeral.digits n) = true :=
    digitRun_of_forall (Numeral.digits_ne_nil n) fun _ => Numeral.isDigit_of_mem_digits
  have some : 0 < (Numeral.digits n).length :=
    List.length_pos_iff.mpr (Numeral.digits_ne_nil n)
  rw [plainDigits, run, Bool.true_and, Bool.or_eq_true, decide_eq_true_eq, decide_eq_true_eq]
  by_cases single : (Numeral.digits n).length = 1
  · exact .inl single
  · exact .inr fun zero => Json.not_leadingZero n ⟨by omega, zero⟩

theorem dropUnderscores_digits (n : Nat) : dropUnderscores (Numeral.digits n) = Numeral.digits n :=
  List.filter_eq_self.mpr fun c mem => decide_eq_true fun same => by
    have digit := Numeral.isDigit_of_mem_digits mem
    rw [same] at digit
    cases digit

theorem splitSign_signed (n : Int) :
    splitSign (Numeral.signed n) = (decide (n < 0), Numeral.digits n.natAbs) := by
  unfold Numeral.signed
  by_cases negative : n < 0
  · rw [if_pos negative, decide_eq_true negative]
    rfl
  · obtain ⟨c, cs, start⟩ := List.exists_cons_of_ne_nil (Numeral.digits_ne_nil n.natAbs)
    have digit : Numeral.isDigit c = true :=
      Numeral.isDigit_of_mem_digits (start ▸ List.mem_cons_self)
    rw [if_neg negative, decide_eq_false negative, start, splitSign]
    · rintro _ same
      cases (List.cons.inj same).1
      cases digit
    · rintro _ same
      cases (List.cons.inj same).1
      cases digit

/-- **An integer of 64 bits is found again from its numeral.** -/
theorem integer?_signed {n : Int} (fits : Width.IsInt64 n) :
    integer? (Numeral.signed n) = some n := by
  have noBase {mark : Char} (other : mark ≠ '-' ∧ Numeral.isDigit mark = false) (ds : List Char) :
      Numeral.signed n ≠ '0' :: mark :: ds := fun same =>
    not_mem_signed other (same ▸ List.mem_cons_of_mem _ List.mem_cons_self)
  have again : (if decide (n < 0) = true then -(n.natAbs : Int) else n.natAbs) = n := by
    split <;> rename_i sign <;> simp only [decide_eq_true_eq] at sign <;> omega
  rw [integer?]
  · simp only [splitSign_signed, plainDigits_digits, if_true, dropUnderscores_digits,
      Numeral.value_digits, again]
    exact if_pos fits
  · exact noBase (by decide)
  · exact noBase (by decide)
  · exact noBase (by decide)

theorem scalarRun_signed (n : Int) (rest : List Char) :
    scalarRun (Numeral.signed n ++ '\n' :: rest) = (Numeral.signed n, '\n' :: rest) := by
  have taken : (Numeral.signed n ++ '\n' :: rest).takeWhile isScalarChar = Numeral.signed n := by
    rw [List.takeWhile_append_of_pos fun _ => isScalarChar_of_mem_signed,
      List.takeWhile_cons_of_neg (by decide), List.append_nil]
  have dropped : (Numeral.signed n ++ '\n' :: rest).dropWhile isScalarChar = '\n' :: rest := by
    rw [List.dropWhile_append_of_pos fun _ => isScalarChar_of_mem_signed,
      List.dropWhile_cons_of_neg (by decide)]
  unfold scalarRun
  rw [taken, dropped]
  rfl

theorem scalar?_signed {n : Int} (fits : Width.IsInt64 n) (rest : List Char) :
    scalar? (Numeral.signed n ++ '\n' :: rest) = some (.int n, '\n' :: rest) := by
  have notTrue : Numeral.signed n ≠ "true".toList := fun same => by
    have mem : 't' ∈ Numeral.signed n := by rw [same]; decide
    exact not_mem_signed (by decide) mem
  have notFalse : Numeral.signed n ≠ "false".toList := fun same => by
    have mem : 'f' ∈ Numeral.signed n := by rw [same]; decide
    exact not_mem_signed (by decide) mem
  unfold scalar?
  rw [scalarRun_signed]
  simp only [if_neg notTrue, if_neg notFalse, integer?_signed fits]

/-! ### Values at the end of a line -/

theorem skipBlanks_cons {c : Char} (space : c ≠ ' ') (tab : c ≠ '\t') (rest : List Char) :
    skipBlanks (c :: rest) = c :: rest :=
  List.dropWhile_cons_of_neg (by simp [space, tab])

/-- What is written is read as a value at the end of a line, behind blanks. -/
structure Writes (text : List Char) (v : Toml) : Prop where
  skip : ∀ rest, skipBlanks (text ++ rest) = text ++ rest
  read : ∀ fuel depth rest, value? (fuel + 1) depth (text ++ '\n' :: rest) = some (v, '\n' :: rest)

theorem string?_start {cs : List Char} {r : List Char × List Char} (read : string? cs = some r) :
    ∃ c ds, cs = c :: ds ∧ (c = '"' ∨ c = '\'') := by
  unfold string? at read
  split at read
  · exact ⟨_, _, rfl, .inl rfl⟩
  · exact ⟨_, _, rfl, .inl rfl⟩
  · exact ⟨_, _, rfl, .inr rfl⟩
  · exact ⟨_, _, rfl, .inr rfl⟩
  · cases read

/-- A string begins with a quote of one kind or the other. -/
theorem quoted_cons (s : String) :
    ∃ c cs, (quoted s).toList = c :: cs ∧ (c = '"' ∨ c = '\'') := by
  obtain ⟨c, ds, start, quote⟩ := string?_start (string?_quoted s [])
  cases text : (quoted s).toList with
  | nil =>
    rw [text] at start
    cases start
    rcases quote with same | same <;> cases same
  | cons d cs =>
    rw [text] at start
    cases start
    exact ⟨_, _, rfl, quote⟩

theorem writes_quoted (s : String) : Writes (quoted s).toList (.str s) := by
  obtain ⟨c, cs, start, quote⟩ := quoted_cons s
  have read (rest : List Char) := string?_quoted s rest
  rw [start] at read ⊢
  constructor
  · intro rest
    obtain rfl | rfl := quote <;> exact skipBlanks_cons (by decide) (by decide) _
  · intro fuel depth rest
    have notBracket : c ≠ '[' := by obtain rfl | rfl := quote <;> decide
    have notBrace : c ≠ '\x7b' := by obtain rfl | rfl := quote <;> decide
    rw [List.cons_append, value?]
    · rw [if_neg notBrace, if_pos quote, ← List.cons_append, read]
      simp
    · exact notBracket

theorem writes_signed {n : Int} (fits : Width.IsInt64 n) : Writes (Numeral.signed n) (.int n) := by
  obtain ⟨c, cs, start, first⟩ := Json.signed_cons n
  have read (rest : List Char) := scalar?_signed fits rest
  have mem : c ∈ Numeral.signed n := start ▸ List.mem_cons_self
  have ne {d : Char} (other : d ≠ '-' ∧ Numeral.isDigit d = false) : c ≠ d := by
    rintro rfl
    exact not_mem_signed other mem
  rw [start] at read ⊢
  constructor
  · intro rest
    exact skipBlanks_cons (ne (by decide)) (ne (by decide)) _
  · intro fuel depth rest
    rw [List.cons_append, value?]
    · rw [if_neg (ne (by decide)), if_neg, ← List.cons_append, read]
      exact not_or_intro (ne (by decide)) (ne (by decide))
    · exact ne (by decide)

/-! ### Keys -/

/-- The key needs no quotes. -/
structure IsBare (key : String) : Prop where
  nonempty : key.toList ≠ []
  bare : ∀ c ∈ key.toList, isBareChar c = true

instance (key : String) : Decidable (IsBare key) :=
  decidable_of_iff (key.toList.isEmpty = false ∧ key.toList.all isBareChar = true)
    ⟨fun h => ⟨List.isEmpty_eq_false_iff.mp h.1, List.all_eq_true.mp h.2⟩,
      fun h => ⟨List.isEmpty_eq_false_iff.mpr h.1, List.all_eq_true.mpr h.2⟩⟩

variable {key : String}

/-- The first character of a key that needs no quotes. -/
theorem IsBare.cons (bare : IsBare key) :
    ∃ c cs, key.toList = c :: cs ∧ isBareChar c = true := by
  obtain ⟨c, cs, start⟩ := List.exists_cons_of_ne_nil bare.nonempty
  exact ⟨c, cs, start, bare.bare c (start ▸ List.mem_cons_self)⟩

theorem IsBare.skip (bare : IsBare key) (rest : List Char) :
    skipBlanks (key.toList ++ rest) = key.toList ++ rest := by
  obtain ⟨c, cs, start, first⟩ := bare.cons
  rw [start]
  refine skipBlanks_cons ?_ ?_ _
  · rintro rfl
    cases first
  · rintro rfl
    cases first

theorem keyPart?_bare (bare : IsBare key) {d : Char} (stop : isBareChar d = false)
    (rest : List Char) : keyPart? (key.toList ++ d :: rest) = some (key, d :: rest) := by
  have taken : (key.toList ++ d :: rest).takeWhile isBareChar = key.toList := by
    rw [List.takeWhile_append_of_pos bare.bare,
      List.takeWhile_cons_of_neg (by rw [stop]; exact Bool.false_ne_true), List.append_nil]
  have dropped : (key.toList ++ d :: rest).dropWhile isBareChar = d :: rest := by
    rw [List.dropWhile_append_of_pos bare.bare,
      List.dropWhile_cons_of_neg (by rw [stop]; exact Bool.false_ne_true)]
  obtain ⟨c, cs, start, first⟩ := bare.cons
  rw [keyPart?, taken, dropped, if_neg bare.nonempty, String.ofList_toList]
  · rintro _ same
    rw [start] at same
    cases (List.cons.inj same).1
    cases first
  · rintro _ same
    rw [start] at same
    cases (List.cons.inj same).1
    cases first

/-- **A key that needs no quotes is found again** in front of what is neither part of it nor a dot. -/
theorem key?_bare (bare : IsBare key) {d e : Char} (stop : isBareChar d = false)
    {rest more : List Char} (skip : skipBlanks (d :: rest) = e :: more) (single : e ≠ '.') :
    key? maxDepth (key.toList ++ d :: rest) = some ((key, []), e :: more) := by
  rw [maxDepth, key?, bare.skip, keyPart?_bare bare stop]
  simp only [Option.bind_eq_bind, Option.bind_some, skip]
  split
  · rename_i same
    exact absurd (List.cons.inj same).1 single
  · rfl

end Reminders.Toml
