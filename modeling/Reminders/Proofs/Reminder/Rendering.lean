import Mathlib.Data.List.Basic
import Reminders.Proofs.Reminder.Reading

/-!
Rendering.

A template is rendered in one pass: the texts between its placeholders stay as they are, each
placeholder gives way to the value of its field, and what was put in is not read again. A
placeholder of no field is refused, and so is a message of blanks only.

* `Template.validate_eq_ok_iff`, `Template.validate_eq_error_iff`: which templates are refused.
* `Template.Reading.fill_ofSegments`: what the pieces of a template come to.
* `Template.render_single_pass`
-/

namespace Reminders

/-- The name of one of the fields. -/
def TemplateField.IsTag (name : String) : Prop := ∃ field : TemplateField, field.tag = name

theorem TemplateField.ofTag?_eq_some_iff {name : String} {field : TemplateField} :
    ofTag? name = some field ↔ field.tag = name := by
  constructor
  · intro found
    unfold ofTag? at found
    simpa using List.find?_some found
  · rintro rfl
    exact ofTag?_tag field

theorem TemplateField.isSome_ofTag?_iff {name : String} :
    (ofTag? name).isSome = true ↔ IsTag name := by
  simp only [Option.isSome_iff_exists, ofTag?_eq_some_iff, IsTag]

theorem TemplateField.isNone_ofTag?_iff {name : String} :
    (ofTag? name).isNone = true ↔ ¬IsTag name := by
  rw [← isSome_ofTag?_iff]
  cases ofTag? name <;> simp

namespace Template

open TemplateField

namespace Reading

/-- Every placeholder is one of a field. -/
def NamesFields (r : Reading) : Prop := ∀ name ∈ r.names, IsTag name

/-- The first placeholder that is not one of a field has this name. -/
def FirstUnknown (r : Reading) (name : String) : Prop :=
  ∃ before after, r.names = before ++ name :: after ∧ (∀ known ∈ before, IsTag known) ∧ ¬IsTag name

/-- The texts as they are, with the values that a map gives to the names in between. -/
def fill (r : Reading) (map : String → Option String) : List Char :=
  (r.placeholders.flatMap fun p => p.1 ++ ((map p.2).getD "").toList) ++ r.tail

variable {map : String → Option String}

theorem names_push (c : Char) (r : Reading) : (r.push c).names = r.names := by
  unfold push names
  split <;> simp_all

theorem fill_push (c : Char) (r : Reading) : (r.push c).fill map = c :: r.fill map := by
  unfold push fill
  split <;> simp_all

theorem names_ofSegments (template : String) : (ofSegments (segments template)).names =
    Template.names template := by
  unfold Template.names
  induction segments template with
  | nil => rfl
  | cons piece rest ih =>
    cases piece with
    | literal c => rw [ofSegments, names_push, ih]; rfl
    | placeholder name => exact congrArg (name :: ·) ih

/-- A piece comes to the character that it is, or to the value of the field that it names. -/
theorem fill_ofSegments {pieces : List Segment} (fields : (ofSegments pieces).NamesFields) :
    pieces.flatMap (Segment.fill (valuesOf map)) = (ofSegments pieces).fill map := by
  induction pieces with
  | nil => rfl
  | cons piece rest ih =>
    cases piece with
    | literal c =>
      rw [NamesFields, ofSegments, names_push] at fields
      rw [List.flatMap_cons, ih fields, ofSegments, fill_push]
      rfl
    | placeholder name =>
      obtain ⟨⟨field, tagged⟩, fields⟩ := List.forall_mem_cons.mp fields
      change field.tag = name at tagged
      rw [List.flatMap_cons, ih fields, Segment.fill, ofTag?_eq_some_iff.mpr tagged, ← tagged]
      simp [ofSegments, fill, valuesOf]

/-- Only what a map gives to the names of the placeholders counts. -/
theorem fill_congr {r : Reading} {map' : String → Option String}
    (same : ∀ name ∈ r.names, (map' name).getD "" = (map name).getD "") :
    r.fill map' = r.fill map := by
  simp only [fill, List.flatMap_def]
  congr 2
  apply List.map_congr_left
  intro p mem
  rw [same p.2 (List.mem_map_of_mem mem)]

end Reading

variable {template : String} {r : Reading} {values : TemplateField → String}

/-! ### What is refused -/

/-- The names that are checked are those of the reading. -/
theorem names_eq (reads : Reads template.toList r) : names template = r.names := by
  rw [reads_iff.mp reads]
  exact (Reading.names_ofSegments template).symm

theorem validate_eq_ok_iff (reads : Reads template.toList r) :
    validate template = .ok () ↔ r.NamesFields := by
  unfold validate Reading.NamesFields
  rw [← names_eq reads]
  split
  · rename_i name found
    have unknown := isNone_ofTag?_iff.mp (List.find?_eq_some_iff_append.mp found).1
    constructor
    · intro accepted
      cases accepted
    · intro fields
      exact absurd (fields name (List.mem_of_find?_eq_some found)) unknown
  · rename_i none
    simp only [List.find?_eq_none, isNone_ofTag?_iff, Classical.not_not] at none
    exact ⟨fun _ => none, fun _ => rfl⟩

/-- A template is refused for the first placeholder that is not one of a field. -/
theorem validate_eq_error_iff (reads : Reads template.toList r) {problem : TemplateProblem} :
    validate template = .error problem ↔
      ∃ name, r.FirstUnknown name ∧ problem = .unknownPlaceholder name := by
  have first {name : String} :
      ((names template).find? fun name => (ofTag? name).isNone) = some name ↔
        r.FirstUnknown name := by
    rw [names_eq reads, List.find?_eq_some_iff_append, isNone_ofTag?_iff]
    simp only [Option.not_isNone, isSome_ofTag?_iff]
    constructor
    · rintro ⟨unknown, before, after, cut, known⟩
      exact ⟨before, after, cut, known, unknown⟩
    · rintro ⟨before, after, cut, known, unknown⟩
      exact ⟨unknown, before, after, cut, known⟩
  unfold validate
  split
  · rename_i name found
    constructor
    · intro refused
      cases refused
      exact ⟨name, first.mp found, rfl⟩
    · rintro ⟨name', unknown, rfl⟩
      rw [← first, found] at unknown
      cases unknown
      rfl
  · rename_i none
    constructor
    · intro refused
      cases refused
    · rintro ⟨name, unknown, -⟩
      rw [← first, none] at unknown
      cases unknown

/-! ### Messages -/

/-- The pieces of a template with the values of the fields put in. -/
def filled (template : String) (values : TemplateField → String) : String :=
  String.ofList ((segments template).flatMap (Segment.fill values))

theorem filled_eq (reads : Reads template.toList r) (fields : r.NamesFields)
    (map : String → Option String) :
    filled template (valuesOf map) = String.ofList (r.fill map) := by
  rw [reads_iff.mp reads] at fields ⊢
  exact congrArg String.ofList (Reading.fill_ofSegments fields)

theorem render_eq (template : String) (values : TemplateField → String) :
    render template values = (validate template).bind fun _ =>
      if Text.trim (filled template values) = "" then .error .emptyMessage
      else .ok (Text.trim (filled template values)) := by
  unfold render filled
  cases validate template with
  | error refused => rfl
  | ok u =>
    simp only [Except.bind, bind]
    split <;> rfl

/-- A message is refused when its template is, or when it is blank. -/
theorem render_eq_error_iff {problem : TemplateProblem} :
    render template values = .error problem ↔ validate template = .error problem ∨
      (validate template = .ok () ∧ Text.IsBlankText (filled template values) ∧
        problem = .emptyMessage) := by
  rw [render_eq, ← Text.trim_eq_empty_iff]
  generalize Text.trim (filled template values) = message
  cases validate template with
  | error refused => simp [Except.bind]
  | ok u => by_cases blank : message = "" <;> simp [Except.bind, blank, eq_comm]

theorem render_eq_ok_iff {message : String} :
    render template values = .ok message ↔ validate template = .ok () ∧
      ¬Text.IsBlankText (filled template values) ∧
        message = Text.trim (filled template values) := by
  rw [render_eq, ← Text.trim_eq_empty_iff]
  generalize Text.trim (filled template values) = trimmed
  cases validate template with
  | error refused => simp [Except.bind]
  | ok u => by_cases blank : trimmed = "" <;> simp [Except.bind, blank, eq_comm]

/-- **Rendering is substitution in one pass.** A template has one reading, whatever the values are:
the leftmost placeholders that do not overlap, and the texts between them. It is refused for the
first placeholder that is not one of a field, or when the message is blank. Otherwise the message is
the texts as they are and the values as they are in between, trimmed. Values that no placeholder
asks for make no difference. -/
theorem render_single_pass (template : String) (map : String → Option String) :
    ∃ r, (∀ r', Reads template.toList r' ↔ r' = r) ∧
      (∀ problem, render template (valuesOf map) = .error problem ↔
        (∃ name, r.FirstUnknown name ∧ problem = .unknownPlaceholder name) ∨
          (r.NamesFields ∧ Text.IsBlankText (String.ofList (r.fill map)) ∧
            problem = .emptyMessage)) ∧
      (∀ message, render template (valuesOf map) = .ok message ↔
        r.NamesFields ∧ ¬Text.IsBlankText (String.ofList (r.fill map)) ∧
          message = Text.trim (String.ofList (r.fill map))) ∧
      ∀ map', (∀ name ∈ r.names, (map' name).getD "" = (map name).getD "") →
        render template (valuesOf map') = render template (valuesOf map) := by
  obtain ⟨r, reads⟩ : ∃ r, Reads template.toList r := ⟨_, reads_iff.mpr rfl⟩
  have refused (map) (problem) : render template (valuesOf map) = .error problem ↔
      (∃ name, r.FirstUnknown name ∧ problem = .unknownPlaceholder name) ∨
        (r.NamesFields ∧ Text.IsBlankText (String.ofList (r.fill map)) ∧
          problem = .emptyMessage) := by
    rw [render_eq_error_iff, validate_eq_error_iff reads, validate_eq_ok_iff reads]
    apply or_congr_right
    apply and_congr_right
    intro fields
    rw [filled_eq reads fields]
  have made (map) (message) : render template (valuesOf map) = .ok message ↔
      r.NamesFields ∧ ¬Text.IsBlankText (String.ofList (r.fill map)) ∧
        message = Text.trim (String.ofList (r.fill map)) := by
    rw [render_eq_ok_iff, validate_eq_ok_iff reads]
    apply and_congr_right
    intro fields
    rw [filled_eq reads fields]
  refine ⟨r, ?_, refused map, made map, ?_⟩
  · intro r'
    rw [reads_iff, reads_iff.mp reads]
  · intro map' same
    have fill := Reading.fill_congr same
    cases outcome : render template (valuesOf map) with
    | error problem => rwa [refused, fill, ← refused]
    | ok message => rwa [made, fill, ← made]

namespace Sample

/-- A placeholder within further braces, and one of a field that is absent. -/
def braces : String := "\x7b\x7b\x7bname\x7d\x7d\x7d costs \x7b\x7b amount \x7d\x7d"

/-- A name that is written like a placeholder. -/
def braced (name : String) : Option String :=
  if name = "name" then some "\x7b\x7buser_email\x7d\x7d" else none

/-- The same name, and the value that it would stand for. -/
def addressed (name : String) : Option String :=
  if name = "user_email" then some "ada@example.org" else braced name

end Sample

/-- A value that is written like a placeholder stays as it is, and the field that it would stand for
makes no difference. -/
theorem render_single_pass_sample :
    ∃ r, Reads Sample.braces.toList r ∧ r.names = ["name", "amount"] ∧
      render Sample.braces (valuesOf Sample.braced) =
        .ok "\x7b\x7b\x7buser_email\x7d\x7d\x7d costs" ∧
      render Sample.braces (valuesOf Sample.addressed) =
        .ok "\x7b\x7b\x7buser_email\x7d\x7d\x7d costs" := by
  obtain ⟨r, reading, -, -, alike⟩ := render_single_pass Sample.braces Sample.braced
  have reads := (reading r).mpr rfl
  have named : r.names = ["name", "amount"] := by
    rw [← names_eq reads]
    decide +kernel
  have rendered : render Sample.braces (valuesOf Sample.braced) =
      .ok "\x7b\x7b\x7buser_email\x7d\x7d\x7d costs" := by
    decide +kernel
  refine ⟨r, reads, named, rendered, ?_⟩
  rw [← rendered]
  apply alike
  intro name mem
  rw [named] at mem
  simp only [List.mem_cons, List.not_mem_nil, or_false] at mem
  rcases mem with rfl | rfl <;> rfl

end Template

end Reminders
