import Reminders.Proofs.Toml.Values

/-!
Reading a document of TOML again.

A `Section` is a header with settings below it, each a key with its value. When no name of a section
comes twice and no key comes twice in a section, a document of sections with empty lines between them
is read as the tables that it writes.

* `Toml.Leads`: some lines are read, and the rest remains.
* `Toml.leads_section`
* `Toml.parse?_document`
-/

namespace Reminders.Toml

/-! ### Entries -/

variable {entries before done : Entries} {key name : String} {v w : Toml}

/-- No entry has the key. -/
def Lacks (entries : Entries) (key : String) : Prop := ∀ e ∈ entries, e.1 ≠ key

theorem lacks_nil (key : String) : Lacks [] key := fun _ mem => nomatch mem

theorem find?_of_lacks (lacks : Lacks entries key) : find? entries key = none :=
  List.lookup_eq_none_iff.mpr fun e mem => by simpa using Ne.symm (lacks e mem)

theorem find?_concat (lacks : Lacks before key) : find? (before ++ [(key, v)]) key = some v := by
  rw [find?, List.lookup_append, show before.lookup key = none from find?_of_lacks lacks]
  simp

theorem putEntry_of_lacks (lacks : Lacks entries key) :
    putEntry key v entries = entries ++ [(key, v)] := by
  induction entries with
  | nil => rfl
  | cons e entries ih =>
    obtain ⟨other, lacks⟩ := List.forall_mem_cons.mp lacks
    rw [putEntry, if_neg other, ih lacks, List.cons_append]

theorem putEntry_concat (lacks : Lacks before key) :
    putEntry key w (before ++ [(key, v)]) = before ++ [(key, w)] := by
  induction before with
  | nil => exact if_pos rfl
  | cons e before ih =>
    obtain ⟨other, lacks⟩ := List.forall_mem_cons.mp lacks
    rw [List.cons_append, putEntry, if_neg other, ih lacks, List.cons_append]

theorem Lacks.concat (lacks : Lacks entries key) (other : name ≠ key) :
    Lacks (entries ++ [(name, v)]) key := fun e mem => by
  obtain mem | mem := List.mem_append.mp mem
  · exact lacks e mem
  · cases List.mem_singleton.mp mem
    exact other

/-- A header opens a new table behind the others. -/
theorem openAt?_of_lacks (lacks : Lacks before name) (path : List String) :
    Document.openAt? openTable ⟨before, path⟩ [name] =
      some ⟨before ++ [(name, .table .header [])], [name]⟩ := by
  have opened : openTable name before = some (before ++ [(name, .table .header [])]) := by
    rw [openTable, find?_of_lacks lacks, putEntry_of_lacks lacks]
  simp only [Document.openAt?, List.getLast?_singleton, List.dropLast_singleton, changeAt, opened,
    Option.bind_eq_bind, Option.bind_some, Option.pure_def]

/-- A setting goes behind the others of the last table. -/
theorem put?_of_lacks (fresh : Lacks before name) (lacks : Lacks done key) :
    Document.put? ⟨before ++ [(name, .table .header done)], [name]⟩ v key [] =
      some ⟨before ++ [(name, .table .header (done ++ [(key, v)]))], [name]⟩ := by
  have added : insertDotted v key [] done = some (done ++ [(key, v)]) := by
    rw [insertDotted, find?_of_lacks lacks, putEntry_of_lacks lacks]
  simp only [Document.put?, changeAt, find?_concat fresh, added, putEntry_concat fresh,
    Option.bind_eq_bind, Option.bind_some, Option.pure_def]

/-! ### Lines -/

/-- Some lines are read one after the other, each of at least one character, and lead from one document
to another. -/
def Leads (doc : Document) (cs : List Char) (doc' : Document) (rest : List Char) : Prop :=
  ∃ lines, lines + rest.length ≤ cs.length ∧
    ∀ fuel, lines? (fuel + lines) doc cs = lines? fuel doc' rest

namespace Leads

variable {doc doc' doc'' : Document} {cs rest rest' : List Char}

theorem refl : Leads doc cs doc cs := ⟨0, by omega, fun _ => rfl⟩

theorem trans (first : Leads doc cs doc' rest) (second : Leads doc' rest doc'' rest') :
    Leads doc cs doc'' rest' := by
  obtain ⟨n, short, read⟩ := first
  obtain ⟨m, short', read'⟩ := second
  refine ⟨m + n, by omega, fun fuel => ?_⟩
  rw [← Nat.add_assoc, read, read']

/-- A text that is read to its end is a document. -/
theorem lines?_eq (whole : Leads doc cs doc' []) : lines? (cs.length + 1) doc cs = some doc' := by
  obtain ⟨n, short, read⟩ := whole
  obtain ⟨fuel, enough⟩ : ∃ fuel, cs.length + 1 = fuel + 1 + n := ⟨cs.length - n, by
    rw [List.length_nil] at short
    omega⟩
  rw [enough, read]
  rfl

end Leads

theorem lineRest?_line (rest : List Char) : lineRest? ('\n' :: rest) = some rest := rfl

theorem leads_empty (doc : Document) (rest : List Char) : Leads doc ('\n' :: rest) doc rest :=
  ⟨1, by rw [List.length_cons]; omega, fun _ => rfl⟩

/-! ### Sections -/

/-- A key with its value, as it is written and as it is read. -/
structure Setting where
  key : String
  text : List Char
  value : Toml

namespace Setting

/-- The line of a setting. -/
def chars (s : Setting) : List Char := s.key.toList ++ ' ' :: '=' :: ' ' :: (s.text ++ ['\n'])

/-- The entry that a setting makes. -/
def entry (s : Setting) : String × Toml := (s.key, s.value)

/-- The setting can be read from its line. -/
structure IsWritten (s : Setting) : Prop where
  bare : IsBare s.key
  writes : Writes s.text s.value

end Setting

/-- A table with its header. -/
structure Section where
  name : String
  settings : List Setting

namespace Section

/-- The lines of a section. -/
def chars (s : Section) : List Char :=
  '[' :: s.name.toList ++ ']' :: '\n' :: s.settings.flatMap Setting.chars

/-- The entry that a section makes. -/
def entry (s : Section) : String × Toml := (s.name, .table .header (s.settings.map Setting.entry))

/-- The section can be read from its lines. -/
structure IsWritten (s : Section) : Prop where
  bare : IsBare s.name
  settings : ∀ e ∈ s.settings, e.IsWritten
  distinct : (s.settings.map Setting.key).Nodup

end Section

/-- The text of some sections, with an empty line between them. -/
def documentChars : List Section → List Char
  | [] => []
  | [s] => s.chars
  | s :: next :: sections => s.chars ++ '\n' :: documentChars (next :: sections)

theorem header?_section (doc : Document) (bare : IsBare name) (rest : List Char) :
    header? doc (name.toList ++ ']' :: '\n' :: rest) =
      (doc.openAt? openTable [name]).map fun doc => (doc, rest) := by
  have read : key? maxDepth (name.toList ++ ']' :: '\n' :: rest) =
      some ((name, []), ']' :: '\n' :: rest) :=
    key?_bare bare (by decide) (skipBlanks_cons (by decide) (by decide) _) (by decide)
  obtain ⟨c, cs, start, first⟩ := bare.cons
  rw [start] at read ⊢
  rw [header?]
  · simp only [read, Option.bind_eq_bind, Option.bind_some, lineRest?_line]
    cases doc.openAt? openTable [name] <;> rfl
  · rintro _ same
    cases (List.cons.inj same).1
    cases first

theorem leads_header (lacks : Lacks before name) (bare : IsBare name) (path : List String)
    (rest : List Char) :
    Leads ⟨before, path⟩ ('[' :: name.toList ++ ']' :: '\n' :: rest)
      ⟨before ++ [(name, .table .header [])], [name]⟩ rest := by
  refine ⟨1, by simp only [List.length_append, List.length_cons]; omega, fun fuel => ?_⟩
  rw [lines?, List.cons_append, skipBlanks_cons (by decide) (by decide)]
  simp only [header?_section _ bare, openAt?_of_lacks lacks, Option.map_some, Option.bind_eq_bind,
    Option.bind_some]

theorem keyValue?_setting {s : Setting} (doc : Document) (written : s.IsWritten)
    (rest : List Char) :
    keyValue? doc (s.chars ++ rest) =
      (doc.put? s.value s.key []).map fun doc => (doc, rest) := by
  have read : key? maxDepth (s.key.toList ++ ' ' :: '=' :: ' ' :: (s.text ++ '\n' :: rest)) =
      some ((s.key, []), '=' :: ' ' :: (s.text ++ '\n' :: rest)) :=
    key?_bare written.bare (by decide) rfl (by decide)
  have skip : skipBlanks (' ' :: (s.text ++ '\n' :: rest)) = s.text ++ '\n' :: rest :=
    written.writes.skip _
  have text : s.chars ++ rest = s.key.toList ++ ' ' :: '=' :: ' ' :: (s.text ++ '\n' :: rest) := by
    simp [Setting.chars]
  rw [keyValue?, text]
  simp only [read, skip, written.writes.read, lineRest?_line, Option.bind_eq_bind,
    Option.bind_some]
  cases doc.put? s.value s.key [] <;> rfl

theorem leads_setting {s : Setting} (fresh : Lacks before name) (lacks : Lacks done s.key)
    (written : s.IsWritten) (rest : List Char) :
    Leads ⟨before ++ [(name, .table .header done)], [name]⟩ (s.chars ++ rest)
      ⟨before ++ [(name, .table .header (done ++ [s.entry]))], [name]⟩ rest := by
  have read := keyValue?_setting ⟨before ++ [(name, .table .header done)], [name]⟩ written rest
  have skip : skipBlanks (s.chars ++ rest) = s.chars ++ rest := by
    rw [Setting.chars, List.append_assoc]
    exact written.bare.skip _
  obtain ⟨c, cs, start, first⟩ := written.bare.cons
  -- The line is neither a header nor empty.
  have notBracket : c ≠ '[' := by
    rintro rfl
    cases first
  have notOther : ¬(c = '#' ∨ c = '\n' ∨ c = '\r') := by
    rintro (rfl | rfl | rfl) <;> cases first
  rw [put?_of_lacks fresh lacks, Option.map_some] at read
  refine ⟨1, ?_, fun fuel => ?_⟩
  · simp only [Setting.chars, List.length_append, List.length_cons]
    omega
  · rw [lines?, skip]
    rw [Setting.chars, start, List.cons_append, List.cons_append] at read ⊢
    simp only [notOther, if_false, read, Option.bind_eq_bind, Option.bind_some]
    rfl

theorem leads_settings {settings : List Setting} (fresh : Lacks before name)
    (lacks : ∀ s ∈ settings, Lacks done s.key) (written : ∀ s ∈ settings, s.IsWritten)
    (distinct : (settings.map Setting.key).Nodup) (rest : List Char) :
    Leads ⟨before ++ [(name, .table .header done)], [name]⟩
      (settings.flatMap Setting.chars ++ rest)
      ⟨before ++ [(name, .table .header (done ++ settings.map Setting.entry))], [name]⟩ rest := by
  induction settings generalizing done with
  | nil =>
    rw [List.map_nil, List.append_nil]
    exact .refl
  | cons s settings ih =>
    obtain ⟨lacks, lacksLater⟩ := List.forall_mem_cons.mp lacks
    obtain ⟨written, writtenLater⟩ := List.forall_mem_cons.mp written
    obtain ⟨other, distinct⟩ := List.nodup_cons.mp distinct
    have still : ∀ t ∈ settings, Lacks (done ++ [s.entry]) t.key := fun t mem =>
      (lacksLater t mem).concat fun same => other (same ▸ List.mem_map_of_mem mem)
    have later := ih still writtenLater distinct
    rw [List.append_assoc] at later
    rw [List.flatMap_cons, List.append_assoc]
    exact (leads_setting fresh lacks written _).trans later

/-- The lines of a section lead to a document with its table behind the others. -/
theorem leads_section {s : Section} (written : s.IsWritten) (fresh : Lacks before s.name)
    (path : List String) (rest : List Char) :
    Leads ⟨before, path⟩ (s.chars ++ rest) ⟨before ++ [s.entry], [s.name]⟩ rest := by
  have settings : Leads ⟨before ++ [(s.name, .table .header [])], [s.name]⟩
      (s.settings.flatMap Setting.chars ++ rest) ⟨before ++ [s.entry], [s.name]⟩ rest :=
    leads_settings fresh (fun s _ => lacks_nil s.key) written.settings written.distinct rest
  rw [Section.chars, List.append_assoc, List.cons_append, List.cons_append]
  exact (leads_header fresh written.bare path _).trans settings

theorem leads_document {sections : List Section} (written : ∀ s ∈ sections, s.IsWritten)
    (fresh : ∀ s ∈ sections, Lacks before s.name) (distinct : (sections.map Section.name).Nodup)
    (path : List String) :
    ∃ path', Leads ⟨before, path⟩ (documentChars sections)
      ⟨before ++ sections.map Section.entry, path'⟩ [] := by
  induction sections generalizing before path with
  | nil =>
    refine ⟨path, ?_⟩
    rw [List.map_nil, List.append_nil]
    exact .refl
  | cons s sections ih =>
    obtain ⟨writtenHere, writtenLater⟩ := List.forall_mem_cons.mp written
    obtain ⟨freshHere, freshLater⟩ := List.forall_mem_cons.mp fresh
    obtain ⟨other, distinct⟩ := List.nodup_cons.mp distinct
    cases sections with
    | nil =>
      refine ⟨[s.name], ?_⟩
      have only := leads_section writtenHere freshHere path []
      rwa [List.append_nil] at only
    | cons next sections =>
      have still : ∀ t ∈ next :: sections, Lacks (before ++ [s.entry]) t.name := fun t mem =>
        (freshLater t mem).concat fun same => other (same ▸ List.mem_map_of_mem mem)
      obtain ⟨path', later⟩ := ih writtenLater still distinct [s.name]
      rw [List.append_assoc] at later
      exact ⟨path', (leads_section writtenHere freshHere path _).trans ((leads_empty _ _).trans later)⟩

theorem dropMark_documentChars (sections : List Section) :
    dropMark (documentChars sections) = documentChars sections := by
  match sections with
  | [] => rfl
  | [s] => rfl
  | s :: next :: sections => rfl

/-- **A document of sections is read as their tables.** -/
theorem parse?_document {sections : List Section} (written : ∀ s ∈ sections, s.IsWritten)
    (distinct : (sections.map Section.name).Nodup) :
    parse? (String.ofList (documentChars sections)) = some (sections.map Section.entry) := by
  have fresh : ∀ s ∈ sections, Lacks [] s.name := fun s _ => lacks_nil s.name
  obtain ⟨path, read⟩ := leads_document written fresh distinct []
  simp only [parse?, String.toList_ofList, dropMark_documentChars, read.lines?_eq, Option.map_some,
    List.nil_append]

end Reminders.Toml
