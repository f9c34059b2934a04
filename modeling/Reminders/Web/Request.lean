import Reminders.Json.Parser
import Reminders.Json.Printer
import Reminders.Text.Base64
import Reminders.Web.Status
import Reminders.Web.Url

/-!
Requests and replies.

A `RequestDraft` is what a service wants to send. `RequestDraft.build` makes a request of it that can
be sent, or says why there is none: the address cannot be read, names no host or is not one of HTTP,
or a header cannot be written.
-/

namespace Reminders

/-- Why a request gets no reply that can be used. -/
inductive RequestError where
  /-- The request cannot be written; the address is known when it could be read. -/
  | unsendable (url : Option String)
  /-- No reply came. -/
  | noReply (url : String)
  /-- The reply is not the JSON that was expected. -/
  | unreadable
deriving DecidableEq

/-- The wording of an error. -/
def RequestError.message : RequestError → String
  | unsendable none => "builder error"
  | unsendable (some url) => "builder error for url (" ++ url ++ ")"
  | noReply url => "error sending request for url (" ++ url ++ ")"
  | unreadable => "error decoding response body"

/-- The methods that carry a message. -/
inductive HttpMethod where
  | post | put | patch
deriving DecidableEq

namespace HttpMethod

def toText : HttpMethod → String
  | post => "POST"
  | put => "PUT"
  | patch => "PATCH"

/-- Every method. -/
def all : List HttpMethod := [post, put, patch]

/-- The method of a text in capitals. -/
def ofText? (s : String) : Option HttpMethod := all.find? (·.toText = s)

end HttpMethod

/-- What a request carries. -/
inductive Body where
  | json (value : Json)
  | form (fields : List (String × String))
  | text (content : String)

namespace Body

/-- The name of the body's format, if the request tells it. -/
def contentType? : Body → Option String
  | json _ => some "application/json"
  | form _ => some "application/x-www-form-urlencoded"
  | text _ => none

/-- The text that is sent. -/
def toText : Body → String
  | json value => value.toText
  | form fields => Form.toText fields
  | text content => content

end Body

/-- A request that can be sent. The names of its headers are written small. -/
structure Request where
  method : HttpMethod
  url : Url
  headers : List (String × String)
  body : Body

/-- What a service wants to send. -/
structure RequestDraft where
  method : HttpMethod
  address : String
  /-- Fields that are added to the address. -/
  query : List (String × String)
  /-- Headers besides those that every request has. -/
  headers : List (String × String)
  body : Body

namespace RequestDraft

/-- A request with a body to an address. -/
def post (address : String) (body : Body) : RequestDraft := ⟨.post, address, [], [], body⟩

/-- Whether a character may stand in the name of a header. -/
def isNameChar (c : Char) : Bool := c.isAlphanum || "!#$%&'*+-.^_\x60|~".toList.contains c

/-- Whether a character may stand in the value of a header. -/
def isValueChar (c : Char) : Bool := c == '\t' || (0x20 ≤ c.toNat && c.toNat ≠ 0x7F)

/-- A header that can be written. -/
def IsHeader (header : String × String) : Prop :=
  header.1 ≠ "" ∧ (∀ c ∈ header.1.toList, isNameChar c = true) ∧
    ∀ c ∈ header.2.toList, isValueChar c = true

-- As with blanks, only the characters of the header are to be looked at.
instance (header : String × String) : Decidable (IsHeader header) :=
  @instDecidableAnd _ _ inferInstance
    (@instDecidableAnd _ _ (List.decidableBAll _ header.1.toList)
      (List.decidableBAll _ header.2.toList))

/-- The text of some characters written small. -/
def lower (s : String) : String := String.ofList (s.toList.map Char.toLower)

/-- The header for a name and a password in an address. -/
def authorization (u : Url) : List (String × String) :=
  if u.user = "" ∧ u.password = none then []
  else
    let given := Percent.decode u.user.toList ++ 0x3A :: Percent.decode (u.password.getD "").toList
    [("authorization", "Basic " ++ Base64.encode given)]

/-- The name that requests give themselves, unless a header gives another. -/
def agent : String × String := ("user-agent", "renewly/0.2.0")

/-- The headers of the request to an address. -/
def allHeaders (d : RequestDraft) (u : Url) : List (String × String) :=
  let own := authorization u ++
    (d.body.contentType?.map fun type => ("content-type", type)).toList ++
    d.headers.map fun (name, value) => (lower name, value)
  if own.any fun header => header.1 = agent.1 then own else own ++ [agent]

/-- The request of a draft. -/
def build (d : RequestDraft) : Except RequestError Request :=
  match Url.parse? d.address with
  | none => .error (.unsendable none)
  | some u =>
    let bare := u.withoutCredentials
    let target := if d.query = [] then bare else bare.withQuery d.query
    if ¬ u.HasHost then .error (.unsendable (some u.toText))
    else if ∃ header ∈ d.headers, ¬ IsHeader header then .error (.unsendable none)
    else if ¬ u.IsHttp then .error (.unsendable (some target.toText))
    else .ok ⟨d.method, target, d.allHeaders u, d.body⟩

end RequestDraft

/-- A reply. -/
structure Reply where
  status : Nat
  body : List UInt8

namespace Reply

/-- A reply of success. -/
def IsSuccess (r : Reply) : Prop := 200 ≤ r.status ∧ r.status < 300

instance (r : Reply) : Decidable r.IsSuccess := inferInstanceAs (Decidable (_ ∧ _))

/-- How much of a reply an error shows. -/
def snippetLength : Nat := 200

/-- The beginning of a reply. -/
def snippet (r : Reply) : String :=
  String.ofList ((Utf8.lossyChars r.body).take snippetLength)

/-- The JSON of a reply. -/
def json? (r : Reply) : Option Json := (Utf8.decode? r.body).bind Json.parse?

end Reply

end Reminders
