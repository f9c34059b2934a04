import Reminders.Text.Blank
import Reminders.Text.Width
import Reminders.Web.Form
import Reminders.Web.Host

/-!
Addresses of the web.

`Url.parse?` reads an address as a browser does: it forgives blanks around it, backward slashes and
missing ones, and writes scheme, host and path in their normal form. `Url.toText` writes it.
-/

namespace Reminders

/-- An address. Its parts are in their written form. -/
structure Url where
  scheme : String
  user : String
  password : Option String
  /-- The host; it may be empty for some schemes, and an address may have none. -/
  host : Option String
  /-- The port, unless it is the one of the scheme. -/
  port : Option Nat
  path : String
  query : Option String
  fragment : Option String
deriving DecidableEq

namespace Url

/-- Kinds of schemes. -/
inductive SchemeKind where
  /-- A scheme of the web, which has a port of its own. -/
  | web (port : Nat)
  | file
  | other
deriving DecidableEq

def SchemeKind.of : String → SchemeKind
  | "http" => .web 80
  | "https" => .web 443
  | "ws" => .web 80
  | "wss" => .web 443
  | "ftp" => .web 21
  | "file" => .file
  | _ => .other

/-! ### Characters -/

def isControl (c : Char) : Bool := c.toNat < 0x20 || c.toNat = 0x7F

def escapedInFragment (c : Char) : Bool := isControl c || " \"<>\x60".toList.contains c

def escapedInPath (c : Char) : Bool := escapedInFragment c || "#?\x7b\x7d".toList.contains c

def escapedInUser (c : Char) : Bool := escapedInPath c || "/:;=@[\\]^|".toList.contains c

def escapedInQuery (kind : SchemeKind) (c : Char) : Bool :=
  isControl c || " \"#<>".toList.contains c || (kind ≠ .other && c = '\'')

/-- Whether a character separates the parts of a path. -/
def isSlash (kind : SchemeKind) (c : Char) : Bool := c = '/' || (kind ≠ .other && c = '\\')

/-! ### Paths -/

/-- A part of a path that means the part before it. -/
def isHere (part : List Char) : Bool :=
  [".", "%2e"].contains (String.ofList (part.map Char.toLower))

/-- A part of a path that takes back the part before it. -/
def isAbove (part : List Char) : Bool :=
  ["..", ".%2e", "%2e.", "%2e%2e"].contains (String.ofList (part.map Char.toLower))

/-- The parts of a path without those that only lead to others. -/
def resolve (done : List (List Char)) : List (List Char) → List (List Char)
  | [] => done
  | [last] =>
    if isAbove last then done.dropLast ++ [[]]
    else if isHere last then done ++ [[]]
    else done ++ [last]
  | part :: rest =>
    if isAbove part then resolve done.dropLast rest
    else if isHere part then resolve done rest
    else resolve (done ++ [part]) rest

/-- The written form of a path after its first slash. -/
def pathText (kind : SchemeKind) (cs : List Char) : String :=
  let cs := cs.map fun c => if isSlash kind c then '/' else c
  let parts := resolve [] (cs.splitOn '/')
  String.ofList (parts.flatMap fun part => '/' :: Percent.encode escapedInPath part)

/-! ### Parts -/

/-- Drops blanks and controls around a text, and ends of lines and tabs within it. -/
def cleaned (s : String) : List Char :=
  (Text.stripChars (fun c => c.toNat ≤ 0x20) s.toList).filter fun c =>
    !(c = '\t' || c = '\n' || c = '\r')

/-- Splits off the scheme. -/
def scheme? (cs : List Char) : Option (String × List Char) :=
  let name := cs.takeWhile fun c => c.isAlphanum || c = '+' || c = '-' || c = '.'
  match cs.drop name.length with
  | ':' :: rest =>
    if (name.head?.map Char.isAlpha).getD false then
      some (String.ofList (name.map Char.toLower), rest)
    else none
  | _ => none

/-- Splits off what stands before the query, the query and the fragment. -/
def splitQuery (cs : List Char) : List Char × Option (List Char) × Option (List Char) :=
  let front := cs.takeWhile (· ≠ '#')
  let fragment := match cs.drop front.length with
    | [] => none
    | _ :: rest => some rest
  let path := front.takeWhile (· ≠ '?')
  let query := match front.drop path.length with
    | [] => none
    | _ :: rest => some rest
  (path, query, fragment)

/-- Splits at the last of a character: what stands before it, if it is there, and after it. -/
def splitLast (mark : Char) (cs : List Char) : Option (List Char) × List Char :=
  let after := (cs.reverse.takeWhile (· ≠ mark)).reverse
  if after.length = cs.length then (none, cs)
  else (some (cs.take (cs.length - after.length - 1)), after)

/-- Splits a host from its port. -/
def splitPort : List Char → List Char × Option (List Char)
  | '[' :: rest =>
    let name := rest.takeWhile (· ≠ ']')
    match rest.drop name.length with
    | ']' :: ':' :: port => ('[' :: name ++ [']'], some port)
    | ']' :: rest => ('[' :: name ++ ']' :: rest, none)
    | _ => ('[' :: rest, none)
  | cs =>
    let name := cs.takeWhile (· ≠ ':')
    match cs.drop name.length with
    | [] => (name, none)
    | _ :: port => (name, some port)

/-- Reads a port; the port of the scheme is left out. -/
def port? (kind : SchemeKind) (cs : List Char) : Option (Option Nat) :=
  if cs.all Char.isDigit then
    let n := Numeral.value cs
    if cs = [] ∨ kind = .web n then some none
    else if n ≤ Width.maxWord16 then some (some n) else none
  else none

/-- Reads a host. -/
def host? (kind : SchemeKind) (cs : List Char) : Option String :=
  match kind with
  | .web _ => Host.ofText? cs
  | .file =>
    if cs = [] then some ""
    else (Host.ofText? cs).map fun host => if host = "localhost" then "" else host
  | .other => Host.opaque? cs

/-- Reads the address after the slashes that follow its scheme. -/
def authority? (scheme : String) (kind : SchemeKind) (cs : List Char)
    (query fragment : Option String) : Option Url := do
  let front := cs.takeWhile fun c => !isSlash kind c
  let path := cs.drop front.length
  let (credentials, place) := splitLast '@' front
  let (name, port) := splitPort place
  let host ← host? kind name
  let port ← match port with
    | some digits => port? kind digits
    | none => some none
  let credentials := credentials.getD []
  let user := credentials.takeWhile (· ≠ ':')
  let password := match credentials.drop user.length with
    | [] => none
    | _ :: password => if password = [] then none else some password
  let written (cs : List Char) : String := String.ofList (Percent.encode escapedInUser cs)
  return {
    scheme
    user := written user
    password := password.map written
    host := some host
    port
    path := if path = [] ∧ kind = .other then "" else pathText kind (path.drop 1)
    query
    fragment }

/-- Reads an address. -/
def parse? (s : String) : Option Url := do
  let (scheme, rest) ← scheme? (cleaned s)
  let kind := SchemeKind.of scheme
  let (front, query, fragment) := splitQuery rest
  let query := query.map fun cs => String.ofList (Percent.encode (escapedInQuery kind) cs)
  let fragment := fragment.map fun cs => String.ofList (Percent.encode escapedInFragment cs)
  match kind with
  | .web _ => authority? scheme kind (front.dropWhile (isSlash kind)) query fragment
  | .file =>
    match front with
    | a :: b :: rest =>
      if isSlash kind a && isSlash kind b then authority? scheme kind rest query fragment
      else authority? scheme kind ('/' :: if isSlash kind a then b :: rest else front) query fragment
    | cs => authority? scheme kind ('/' :: cs.dropWhile (isSlash kind)) query fragment
  | .other =>
    match front with
    | '/' :: '/' :: rest => authority? scheme kind rest query fragment
    | '/' :: rest => some ⟨scheme, "", none, none, none, pathText kind rest, query, fragment⟩
    | cs => some ⟨scheme, "", none, none, none, String.ofList (Percent.encode isControl cs), query, fragment⟩

/-! ### Writing -/

/-- Name and password before a host. -/
def credentialsText (u : Url) : String :=
  match u.password with
  | some password => u.user ++ ":" ++ password ++ "@"
  | none => if u.user = "" then "" else u.user ++ "@"

/-- A part behind its mark, if it is there. -/
def marked (mark : String) : Option String → String
  | some part => mark ++ part
  | none => ""

/-- The text of an address. -/
def toText (u : Url) : String :=
  let place := match u.host with
    | some host => "//" ++ u.credentialsText ++ host ++ marked ":" (u.port.map Numeral.ofNat)
    | none => ""
  u.scheme ++ ":" ++ place ++ u.path ++ marked "?" u.query ++ marked "#" u.fragment

/-- Whether an address names a host. -/
def HasHost (u : Url) : Prop := ∃ host ∈ u.host, host ≠ ""

instance (u : Url) : Decidable u.HasHost :=
  match h : u.host with
  | none => isFalse (by simp [HasHost, h])
  | some host => decidable_of_iff (host ≠ "") (by simp [HasHost, h])

/-- An address that requests can be sent to. -/
def IsHttp (u : Url) : Prop := u.scheme = "http" ∨ u.scheme = "https"

instance (u : Url) : Decidable u.IsHttp := inferInstanceAs (Decidable (_ ∨ _))

/-- The address without name and password. -/
def withoutCredentials (u : Url) : Url := { u with user := "", password := none }

/-- The address with fields added to its query. -/
def withQuery (u : Url) (fields : List (String × String)) : Url :=
  let added := Form.toText fields
  { u with query := some (match u.query with
      | none => added
      | some query => if query = "" then added else query ++ "&" ++ added) }

end Url

end Reminders
