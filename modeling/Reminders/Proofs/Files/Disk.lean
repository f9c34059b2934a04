import Reminders.Files.Disk

/-!
What becomes of a disk.

A path leads from place to place. Making the directories along it succeeds when no file stands in the
way, adds nothing but directories, and afterwards the path can be followed; a file that is written
there is found again.

* `Disk.walk_concat`: following names through directories.
* `Disk.exists_makeAll`: making directories along a way.
* `Disk.write_eq`, `Disk.read_eq`: writing and reading at the end of a path.
-/

namespace Reminders

/-! ### Paths -/

namespace Path

/-- A name that stands for itself in a path: it holds no slash and is not a point. -/
def IsPlainName (name : String) : Prop := '/' ∉ name.toList ∧ name ≠ "" ∧ name ≠ "."

variable {directory name : String}

theorem toList_join (directory name : String) : ∃ front : List Char,
    (join directory name).toList = front ++ '/' :: name.toList ∧
      (directory.toList = front ∨ directory.toList = front ++ ['/']) := by
  unfold join
  by_cases slash : directory.toList.getLast? = some '/'
  · obtain ⟨front, same⟩ := List.getLast?_eq_some_iff.mp slash
    refine ⟨front, ?_, .inr same⟩
    rw [if_pos slash, String.toList_append, same, List.append_assoc]
    rfl
  · refine ⟨directory.toList, ?_, .inl rfl⟩
    rw [if_neg slash, String.toList_append, String.toList_append, List.append_assoc]
    rfl

theorem splitOn_append (front : List Char) (rest : List Char) :
    (front ++ '/' :: rest).splitOn '/' = front.splitOn '/' ++ rest.splitOn '/' :=
  List.splitOnP_append_cons front rest (by decide)

/-- The names that some characters between slashes lead through. -/
def namesOf (cs : List Char) : List String :=
  ((cs.splitOn '/').map String.ofList).filter fun name => name ≠ "" && name ≠ "."

theorem namesOf_append (front rest : List Char) :
    namesOf (front ++ '/' :: rest) = namesOf front ++ namesOf rest := by
  rw [namesOf, splitOn_append, List.map_append, List.filter_append]
  rfl

theorem namesOf_plain (plain : IsPlainName name) : namesOf name.toList = [name] := by
  obtain ⟨noSlash, nonempty, notPoint⟩ := plain
  rw [namesOf, List.splitOn_eq_singleton noSlash, List.map_singleton, String.ofList_toList]
  simp [nonempty, notPoint]

/-- A plain name comes behind the names of its directory. -/
theorem names_join (plain : IsPlainName name) :
    names (join directory name) = names directory ++ [name] := by
  obtain ⟨front, text, same⟩ := toList_join directory name
  have inDirectory : names directory = namesOf front := by
    obtain same | same := same
    · rw [← same]
      rfl
    · have last : namesOf (front ++ '/' :: []) = namesOf front ++ [] := namesOf_append front []
      rw [List.append_nil, ← same] at last
      exact last
  calc
    names (join directory name) = namesOf (front ++ '/' :: name.toList) := by rw [← text]; rfl
    _ = namesOf front ++ namesOf name.toList := namesOf_append ..
    _ = names directory ++ [name] := by rw [namesOf_plain plain, inDirectory]

theorem join_ne_empty : join directory name ≠ "" := by
  obtain ⟨front, text, -⟩ := toList_join directory name
  intro empty
  rw [empty] at text
  cases front <;> cases text

theorem isDirectory_join (plain : IsPlainName name) : isDirectory (join directory name) = false := by
  obtain ⟨noSlash, nonempty, -⟩ := plain
  obtain ⟨front, text, -⟩ := toList_join directory name
  obtain ⟨c, cs, start⟩ : ∃ c cs, name.toList = c :: cs :=
    List.exists_cons_of_ne_nil fun none => nonempty (String.toList_eq_nil_iff.mp none)
  refine decide_eq_false fun last => noSlash ?_
  rw [text, List.getLast?_append, List.getLast?_cons, start, List.getLast?_cons] at last
  rw [start]
  refine List.mem_of_getLast? ?_
  rw [List.getLast?_cons]
  simpa using last

theorem isAbsolute_join (nonempty : directory ≠ "") :
    isAbsolute (join directory name) = isAbsolute directory := by
  obtain ⟨front, text, same⟩ := toList_join directory name
  unfold isAbsolute
  rw [text]
  obtain same | same := same
  · obtain ⟨c, cs, start⟩ : ∃ c cs, front = c :: cs := List.exists_cons_of_ne_nil fun none =>
      nonempty (String.toList_eq_nil_iff.mp (same.trans none))
    rw [same, start]
    rfl
  · rw [same, List.head?_append, List.head?_append]
    rfl

end Path

namespace Disk

/-! ### Following names -/

/-- Where a name leads from a place. -/
def next (reached : List String) (name : String) : List String :=
  if name = ".." then reached.dropLast else reached ++ [name]

/-- Where some names lead from a place. -/
def target (reached : List String) (names : List String) : List String := names.foldl next reached

/-- The places that some names lead through, from the first to the last. -/
def trail : List String → List String → List (List String)
  | reached, [] => [reached]
  | reached, name :: names => reached :: trail (next reached name) names

variable {d d' : Disk} {reached names place other : List String} {name : String} {p : Place}

theorem mem_trail_self (reached names : List String) : reached ∈ trail reached names := by
  cases names <;> exact List.mem_cons_self

theorem walk_cons (here : d.place? reached = some .directory) (name : String)
    (names : List String) :
    d.walk reached (name :: names) = d.walk (next reached name) names := by
  rw [walk, here, next]
  by_cases up : name = ".."
  · simp only [if_pos up]
  · simp only [if_neg up]

/-- A name beyond directories can be followed. -/
theorem walk_concat (directories : ∀ p ∈ trail reached names, d.place? p = some .directory)
    (down : name ≠ "..") :
    d.walk reached (names ++ [name]) = .ok (target reached names ++ [name]) := by
  induction names generalizing reached with
  | nil =>
    rw [List.nil_append, walk_cons (directories reached (mem_trail_self reached [])), next,
      if_neg down]
    rfl
  | cons first names ih =>
    obtain ⟨here, later⟩ := List.forall_mem_cons.mp directories
    rw [List.cons_append, walk_cons here, ih later]
    rfl

/-- What can be followed leads through directories. -/
theorem directories_of_walk (followed : d.walk reached (names ++ [name]) = .ok place) :
    ∀ p ∈ trail reached names, d.place? p = some .directory := by
  induction names generalizing reached with
  | nil =>
    refine List.forall_mem_cons.mpr ⟨?_, nofun⟩
    rw [List.nil_append, walk] at followed
    split at followed
    · cases followed
    · cases followed
    · assumption
  | cons first names ih =>
    have here : d.place? reached = some .directory := by
      rw [List.cons_append, walk] at followed
      split at followed
      · cases followed
      · cases followed
      · assumption
    rw [List.cons_append, walk_cons here] at followed
    exact List.forall_mem_cons.mpr ⟨here, ih followed⟩

/-! ### Changing a place -/

theorem lookup_filter_ne (apart : other ≠ place) (places : List (List String × Place)) :
    (places.filter fun entry => entry.1 ≠ place).lookup other = places.lookup other := by
  induction places with
  | nil => rfl
  | cons entry places ih =>
    by_cases gone : entry.1 = place
    · have noMatch : (other == entry.1) = false := beq_eq_false_iff_ne.mpr (gone ▸ apart)
      rw [List.filter_cons_of_neg (by simpa using gone), ih, List.lookup_cons, noMatch]
    · rw [List.filter_cons_of_pos (by simpa using gone), List.lookup_cons, List.lookup_cons, ih]

theorem place?_put (inside : place ≠ []) (other : List String) :
    (d.put place p).place? other = if other = place then some p else d.place? other := by
  unfold place? put
  by_cases root : other = []
  · rw [if_pos root, if_pos root, if_neg fun same => inside (same.symm.trans root)]
  rw [if_neg root, if_neg root]
  by_cases same : other = place
  · simp [same]
  · rw [if_neg same, List.lookup_cons, beq_eq_false_iff_ne.mpr same]
    exact lookup_filter_ne same d.places

/-! ### Making directories -/

/-- No file stands at the place. -/
def IsClear (d : Disk) (place : List String) : Prop := ∀ text, d.place? place ≠ some (.file text)

/-- A disk has become another one by making the places of a way directories. -/
structure Opens (d : Disk) (way : List (List String)) (d' : Disk) : Prop where
  made : ∀ place ∈ way, d'.place? place = some .directory
  same : ∀ place, place ∉ way → d'.place? place = d.place? place

theorem makeAll_cons (d : Disk) (reached : List String) (name : String) (names : List String) :
    d.makeAll reached (name :: names) =
      match d.place? (next reached name) with
      | none => (d.put (next reached name) .directory).makeAll (next reached name) names
      | some .directory => d.makeAll (next reached name) names
      | some (.file _) => .error (if names = [] then .exists else .notDirectory) := rfl

/-- Making directories leaves every file as it is and adds none. -/
theorem file_iff_of_makeAll (made : d.makeAll reached names = .ok d') (place : List String)
    (text : String) :
    d'.place? place = some (.file text) ↔ d.place? place = some (.file text) := by
  induction names generalizing d reached with
  | nil =>
    cases made
    exact .rfl
  | cons name names ih =>
    rw [makeAll_cons] at made
    split at made
    · rename_i free
      have inside : next reached name ≠ [] := fun root => by
        rw [root] at free
        cases free
      rw [ih made, place?_put inside]
      split
      · rename_i here
        simp [here, free]
      · exact .rfl
    · exact ih made
    · cases made

/-- Directories are made along a way on which no file stands. -/
theorem exists_makeAll (start : d.place? reached = some .directory)
    (clear : ∀ place ∈ trail reached names, d.IsClear place) :
    ∃ d', d.makeAll reached names = .ok d' ∧ Opens d (trail reached names) d' := by
  induction names generalizing d reached with
  | nil =>
    refine ⟨d, rfl, ?_, fun _ _ => rfl⟩
    exact List.forall_mem_cons.mpr ⟨start, nofun⟩
  | cons name names ih =>
    obtain ⟨-, clear⟩ := List.forall_mem_cons.mp clear
    rw [makeAll_cons]
    cases stands : d.place? (next reached name) with
    | none =>
      have inside : next reached name ≠ [] := fun root => by
        rw [root] at stands
        cases stands
      have put (place : List String) := place?_put (p := .directory) (d := d) inside place
      have stillClear : ∀ place ∈ trail (next reached name) names,
          (d.put (next reached name) .directory).IsClear place := fun place mem text file => by
        rw [put] at file
        split at file
        · cases file
        · exact clear place mem text file
      obtain ⟨d', done, made, same⟩ := ih (by rw [put, if_pos rfl]) stillClear
      refine ⟨d', done, List.forall_mem_cons.mpr ⟨?_, made⟩, fun place away => ?_⟩
      · by_cases again : reached ∈ trail (next reached name) names
        · exact made reached again
        · rw [same reached again, put, if_neg, start]
          intro back
          rw [← back, start] at stands
          cases stands
      · have away : place ∉ trail (next reached name) names := fun mem =>
          away (List.mem_cons_of_mem _ mem)
        rw [same place away, put, if_neg]
        exact fun back => away (back ▸ mem_trail_self ..)
    | some p =>
      cases p with
      | file text => exact absurd stands (clear _ (mem_trail_self _ _) text)
      | directory =>
        obtain ⟨d', done, made, same⟩ := ih stands clear
        refine ⟨d', done, List.forall_mem_cons.mpr ⟨?_, made⟩, fun place away => ?_⟩
        · by_cases again : reached ∈ trail (next reached name) names
          · exact made reached again
          · rw [same reached again, start]
        · exact same place fun mem => away (List.mem_cons_of_mem _ mem)

/-! ### Writing and reading -/

variable {working : List String} {path text : String}

theorem write_eq (located : d.locate working path = .ok place)
    (free : d.place? place ≠ some .directory) (single : Path.isDirectory path = false) :
    d.write working path text = .ok (d.put place (.file text)) := by
  simp only [write, located, single, Bool.false_eq_true, if_false, bind, Except.bind]
  cases stands : d.place? place with
  | none => rfl
  | some p =>
    cases p with
    | directory => exact absurd stands free
    | file old => rfl

/-- What stands at the end of a path. -/
theorem at?_eq (located : d.locate working path = .ok place) (stands : d.place? place = some p)
    (single : Path.isDirectory path = false) : d.at? working path = .ok p := by
  simp only [at?, located, stands, single, Bool.false_eq_true, if_false, bind, Except.bind]
  cases p <;> rfl

theorem read_eq (located : d.locate working path = .ok place)
    (stands : d.place? place = some (.file text)) (single : Path.isDirectory path = false) :
    d.read working path = .ok text := by
  rw [read, at?_eq located stands single]
  rfl

/-- Directories stay when a text is put where none of them stands. -/
theorem place?_put_file (free : d.place? place ≠ some .directory)
    (directory : d.place? other = some .directory) :
    (d.put place (.file text)).place? other = some .directory := by
  have inside : place ≠ [] := by
    rintro rfl
    exact free rfl
  rw [place?_put inside, if_neg, directory]
  rintro rfl
  exact free directory

end Disk

end Reminders
