import Reminders.Text.Blank

/-!
Mailboxes.

A mailbox is written as an address, or as a name followed by an address in angle brackets.
`Mailbox.parse` reads it and then checks the two parts of the address.
-/

namespace Reminders

/-- Why an address is refused. -/
inductive AddressProblem where
  /-- The text is no mailbox. -/
  | unreadable
  | badUser
  | badDomain
deriving DecidableEq

/-- The wording of a problem. -/
def AddressProblem.message : AddressProblem → String
  | unreadable => "Invalid input"
  | badUser => "Invalid email user"
  | badDomain => "Invalid email domain"

/-- Somebody whom a letter can be sent to. -/
structure Mailbox where
  name : Option String
  user : String
  domain : String
deriving DecidableEq

namespace Mailbox

/-- Takes something from the front of a text. -/
abbrev Reader (α : Type) := List Char → Option (α × List Char)

/-! ### Characters -/

/-- A blank within a line. -/
def isSpace (c : Char) : Bool := c == ' ' || c == '\t'

/-- The characters of words. -/
def isWordChar (c : Char) : Bool :=
  c.isAlphanum || 0x80 ≤ c.toNat || "!#$%&'*+-/=?^_\x60\x7b|\x7d~".toList.contains c

/-- The controls that may stand between quotes. -/
def isQuietControl (c : Char) : Bool :=
  let n := c.toNat
  (1 ≤ n && n ≤ 8) || n == 11 || n == 12 || (14 ≤ n && n ≤ 31) || n == 127

/-- The characters that may stand between quotes as they are. -/
def isQuotedChar (c : Char) : Bool :=
  (0x21 ≤ c.toNat && c.toNat ≤ 0x7E && c != '"' && c != '\\') || isQuietControl c || 0x80 ≤ c.toNat

/-- The characters that may follow a backslash between quotes. -/
def isEscapable (c : Char) : Bool :=
  1 ≤ c.toNat && c.toNat ≤ 127 && c != '\n' && c != '\r'

/-! ### Words -/

/-- Takes blanks, of which the first one counts. -/
def leadingSpace (cs : List Char) : List Char × List Char :=
  ((cs.takeWhile isSpace).take 1, cs.dropWhile isSpace)

/-- Takes a run of characters of a word. -/
def run : Reader (List Char) := fun cs =>
  let word := cs.takeWhile isWordChar
  if word = [] then none else some (word, cs.dropWhile isWordChar)

/-- Takes a word after blanks. -/
def atom : Reader (List Char) := fun cs =>
  let (space, rest) := leadingSpace cs
  (run rest).map fun (word, rest) => (space ++ word, rest)

/-- Takes the text between quotes after the first one; `fuel` bounds its length. -/
def quotedBody : Nat → Reader (List Char)
  | 0, _ => none
  | fuel + 1, cs =>
    let (space, rest) := leadingSpace cs
    match rest with
    | '\\' :: c :: more =>
      if isEscapable c then
        (quotedBody fuel more).map fun (text, rest) => (space ++ c :: text, rest)
      else none
    | c :: more =>
      if isQuotedChar c then
        (quotedBody fuel more).map fun (text, rest) => (space ++ c :: text, rest)
      else match cs.dropWhile isBlank with
        | '"' :: rest => some ([], rest)
        | _ => none
    | [] => none

/-- Takes a text between quotes. -/
def quoted : Reader (List Char)
  | '"' :: rest => quotedBody rest.length rest
  | _ => none

/-- Takes a word or a text between quotes. -/
def word : Reader (List Char) := fun cs => (quoted cs).or (atom cs)

/-- Takes what follows while a reader finds something; `fuel` bounds how often. -/
def many (read : Reader (List Char)) : Nat → List Char → List Char × List Char
  | 0, cs => ([], cs)
  | fuel + 1, cs =>
    match read cs with
    | none => ([], cs)
    | some (text, rest) =>
      let (more, rest) := many read fuel rest
      (text ++ more, rest)

/-- Takes something behind a point. -/
def behindPoint (read : Reader (List Char)) : Reader (List Char)
  | '.' :: rest => (read rest).map fun (text, rest) => ('.' :: text, rest)
  | _ => none

/-- Takes things with points between them. -/
def pointed (read : Reader (List Char)) : Reader (List Char) := fun cs => do
  let (first, rest) ← read cs
  let (more, rest) := many (behindPoint read) rest.length rest
  return (first ++ more, rest)

/-! ### Addresses -/

/-- Takes words with points between them, of which only the first may follow a blank. -/
def dotted : Reader (List Char) := fun cs => do
  let (space, rest) := leadingSpace cs
  let (first, rest) ← run rest
  let (more, rest) := many (behindPoint run) rest.length rest
  if more = [] then none else return (space ++ first ++ more, rest)

/-- Takes an address. -/
def address : Reader (List Char × List Char) := fun cs => do
  let (user, rest) ← ((dotted cs).or (quoted cs)).or (pointed word cs)
  match rest with
  | '@' :: rest =>
    let (domain, rest) ← (dotted rest).or (pointed atom rest)
    return ((user, domain), rest)
  | _ => none

/-- Takes a name: words and points, of which the first is a word. -/
def phrase : Reader (List Char) := fun cs => do
  let (first, rest) ← word cs
  let point : Reader (List Char)
    | '.' :: rest => some (['.'], rest)
    | _ => none
  let (more, rest) := many (fun cs => (word cs).or (point cs)) rest.length rest
  return (first ++ more, rest)

/-- Takes an address in angle brackets, with blanks around it. -/
def bracketed : Reader (List Char × List Char) := fun cs =>
  match cs.dropWhile isBlank with
  | '<' :: rest => do
    let (found, rest) ← address rest
    match rest with
    | '>' :: rest => return (found, rest.dropWhile isBlank)
    | _ => none
  | _ => none

/-- Takes an address behind a name, if there is one. -/
def named : Reader (Option (List Char) × List Char × List Char) := fun cs =>
  let (name, rest) := match phrase cs with
    | some (name, rest) => (some name, rest)
    | none => (none, cs)
  (bracketed rest).map fun (found, rest) => ((name, found), rest)

/-! ### Parts -/

/-- A letter or digit; beyond ASCII every character is taken for one. -/
def isLetterOrDigit (c : Char) : Bool := c.isAlphanum || 0x80 ≤ c.toNat

/-- How many octets characters take. -/
def octets (cs : List Char) : Nat := (String.ofList cs).utf8ByteSize

/-- A user of some words with points between them, of up to 64 octets. -/
def isUser (cs : List Char) : Bool :=
  octets cs ≤ 64 && ((cs.splitOn '.').all fun part => part ≠ [] && part.all isWordChar)

/-- A label of a domain begins and ends with a letter or digit and has up to 63 octets. -/
def isLabel (cs : List Char) : Bool :=
  octets cs ≤ 63 && cs.all isWordChar &&
    (cs.head?.map isLetterOrDigit).getD false && (cs.getLast?.map isLetterOrDigit).getD false

/-- A domain of some labels, of up to 254 octets. -/
def isDomain (cs : List Char) : Bool := octets cs ≤ 254 && (cs.splitOn '.').all isLabel

/-- Reads a mailbox. -/
def parse (s : String) : Except AddressProblem Mailbox :=
  let cs := s.toList.dropWhile isBlank
  let found := (named cs).or ((address cs).map fun (found, rest) => ((none, found), rest))
  match found with
  | some ((name, user, domain), rest) =>
    if rest.any fun c => !isBlank c then .error .unreadable
    else if !isUser user then .error .badUser
    else if !isDomain domain then .error .badDomain
    else .ok ⟨name.map String.ofList, String.ofList user, String.ofList domain⟩
  | none => .error .unreadable

end Mailbox

end Reminders
