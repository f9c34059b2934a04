import Reminders.Text.Blank

/-!
Message templates.

A template is text with placeholders: two opening braces, a name of letters, digits and underscores
with blanks around it if one likes, and two closing braces. `Template.segments` reads a template
from left to right in one pass: where a placeholder starts it is taken whole, anywhere else one
character is. `Template.render` replaces each placeholder by the value of its field; what it puts in
is never read again. A name that is not one of the ten fields is refused.
-/

namespace Reminders

/-- What a placeholder may stand for. -/
inductive TemplateField where
  | name | amount | currency | daysUntil | category | paymentMethod | url | remark | billingDate
  | userEmail
deriving DecidableEq

namespace TemplateField

/-- Every field. -/
def all : List TemplateField :=
  [name, amount, currency, daysUntil, category, paymentMethod, url, remark, billingDate, userEmail]

def tag : TemplateField → String
  | name => "name"
  | amount => "amount"
  | currency => "currency"
  | daysUntil => "days_until"
  | category => "category"
  | paymentMethod => "payment_method"
  | url => "url"
  | remark => "remark"
  | billingDate => "billing_date"
  | userEmail => "user_email"

/-- The field of a name. -/
def ofTag? (s : String) : Option TemplateField := all.find? (·.tag = s)

@[simp] theorem ofTag?_tag (f : TemplateField) : ofTag? f.tag = some f := by cases f <;> decide

end TemplateField

/-- Why a template cannot be used. -/
inductive TemplateProblem where
  | unknownPlaceholder (name : String)
  | emptyMessage
deriving DecidableEq

/-- The wording of a problem. -/
def TemplateProblem.message : TemplateProblem → String
  | unknownPlaceholder name => "unknown placeholder '\x7b\x7b" ++ name ++ "\x7d\x7d'"
  | emptyMessage => "template rendered to an empty message"

namespace Template

/-- A piece of a template. -/
inductive Segment where
  | literal (c : Char)
  | placeholder (name : String)
deriving DecidableEq

/-- The characters of a name. -/
def isNameChar (c : Char) : Bool :=
  ('a' ≤ c && c ≤ 'z') || ('A' ≤ c && c ≤ 'Z') || ('0' ≤ c && c ≤ '9') || c == '_'

/-- Reads a placeholder at the front: its name, and what follows it. -/
def placeholder? : List Char → Option (List Char × List Char)
  | '\x7b' :: '\x7b' :: rest =>
    let inner := rest.dropWhile isBlank
    let name := inner.takeWhile isNameChar
    if name = [] then none
    else
      match (inner.dropWhile isNameChar).dropWhile isBlank with
      | '\x7d' :: '\x7d' :: after => some (name, after)
      | _ => none
  | _ => none

theorem length_dropWhile_le (p : Char → Bool) (cs : List Char) :
    (cs.dropWhile p).length ≤ cs.length := (List.dropWhile_sublist p).length_le

/-- What follows a placeholder is shorter. -/
theorem placeholder?_length {cs name after : List Char} (h : placeholder? cs = some (name, after)) :
    after.length < cs.length := by
  unfold placeholder? at h
  split at h
  · rename_i rest
    simp only at h
    split at h
    · cases h
    · split at h
      · rename_i heq
        cases h
        have h1 := length_dropWhile_le isBlank rest
        have h2 := length_dropWhile_le isNameChar (rest.dropWhile isBlank)
        have h3 := length_dropWhile_le isBlank ((rest.dropWhile isBlank).dropWhile isNameChar)
        rw [heq] at h3
        simp only [List.length_cons] at *
        omega
      · cases h
  · cases h

/-- The pieces of a template. -/
def segmentsOf (cs : List Char) : List Segment :=
  match _found : placeholder? cs with
  | some (name, after) => .placeholder (String.ofList name) :: segmentsOf after
  | none =>
    match cs with
    | [] => []
    | c :: rest => .literal c :: segmentsOf rest
termination_by cs.length
decreasing_by
  · exact placeholder?_length _found
  · simp

/-- The pieces of a template. -/
def segments (template : String) : List Segment := segmentsOf template.toList

/-- The names of the placeholders, in their order. -/
def names (template : String) : List String :=
  (segments template).filterMap fun
    | .literal _ => none
    | .placeholder name => some name

/-- Refuses the first placeholder that is not one of the fields. -/
def validate (template : String) : Except TemplateProblem Unit :=
  match (names template).find? fun name => (TemplateField.ofTag? name).isNone with
  | some name => .error (.unknownPlaceholder name)
  | none => .ok ()

/-- The values of the fields in a map by names. A field that the map lacks is empty, and what it has
under other names is not looked up. -/
def valuesOf (map : String → Option String) (field : TemplateField) : String :=
  (map field.tag).getD ""

/-- A piece with the values of the fields put in. -/
def Segment.fill (values : TemplateField → String) : Segment → List Char
  | .literal c => [c]
  | .placeholder name =>
    match TemplateField.ofTag? name with
    | some field => (values field).toList
    | none => []

/-- The message that a template makes of the values of the fields. -/
def render (template : String) (values : TemplateField → String) :
    Except TemplateProblem String := do
  validate template
  let message := Text.trim (String.ofList ((segments template).flatMap (Segment.fill values)))
  if message = "" then throw .emptyMessage
  return message

end Template

end Reminders
