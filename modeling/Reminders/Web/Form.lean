import Reminders.Web.Percent

/-!
Forms.

The fields of a form are written one after the other with ampersands between them, each as its name,
an equals sign and its value. A space is written as a plus sign.
-/

namespace Reminders.Form

/-- The characters that stand for themselves. -/
def isPlain (c : Char) : Bool :=
  c.isAlphanum || c == '*' || c == '-' || c == '.' || c == '_'

/-- The written form of a name or a value. -/
def component (s : String) : List Char :=
  s.toList.flatMap fun c =>
    if c = ' ' then ['+'] else Percent.encode (fun c => !isPlain c) [c]

/-- The written form of a field. -/
def fieldChars (field : String × String) : List Char :=
  component field.1 ++ '=' :: component field.2

/-- The written form of some fields. -/
def chars (fields : List (String × String)) : List Char :=
  ['&'].intercalate (fields.map fieldChars)

/-- The text of a form. -/
def toText (fields : List (String × String)) : String := String.ofList (chars fields)

end Reminders.Form
