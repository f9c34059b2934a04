import Reminders.Toml.Scalar

/-!
Reading TOML.

A document is a list of lines: blank ones, headers, and keys with values. `Toml.parse?` gives the
entries of its root table; a key that is set twice, or a table that is described twice, is refused.
-/

namespace Reminders.Toml

/-! ### Blanks, comments and ends of lines -/

/-- Drops blanks within a line. -/
def skipBlanks (cs : List Char) : List Char := cs.dropWhile fun c => c == ' ' || c == '\t'

/-- Drops a comment, if there is one. -/
def skipComment : List Char → List Char
  | '#' :: rest => rest.dropWhile isPlain
  | cs => cs

/-- Reads the end of a line or of the text. -/
def lineEnd? : List Char → Option (List Char)
  | [] => some []
  | '\n' :: rest => some rest
  | '\r' :: '\n' :: rest => some rest
  | _ => none

/-- Reads what may follow a header or a value: blanks, a comment and the end of the line. -/
def lineRest? (cs : List Char) : Option (List Char) := lineEnd? (skipComment (skipBlanks cs))

/-- Drops blanks, comments and ends of lines between the items of an array; `fuel` bounds the number
of lines. -/
def skipLines : Nat → List Char → List Char
  | 0, cs => cs
  | fuel + 1, cs =>
    match skipComment (skipBlanks cs) with
    | '\n' :: rest => skipLines fuel rest
    | '\r' :: '\n' :: rest => skipLines fuel rest
    | cs => cs

/-! ### Keys -/

/-- Whether a character may stand in a key without quotes. -/
def isBareChar (c : Char) : Bool := c.isAlphanum || c == '_' || c == '-'

/-- Reads one part of a key. -/
def keyPart? : List Char → Option (String × List Char)
  | '"' :: rest => (basicBody rest).map fun (cs, after) => (String.ofList cs, after)
  | '\'' :: rest => (literalBody rest).map fun (cs, after) => (String.ofList cs, after)
  | cs =>
    let bare := cs.takeWhile isBareChar
    if bare = [] then none else some (String.ofList bare, cs.dropWhile isBareChar)

/-- How many parts a key may have, and how deep values may be nested. -/
def maxDepth : Nat := 79

/-- Reads a key of at most `parts` parts with blanks around them: its first part and the others. -/
def key? : Nat → List Char → Option ((String × List String) × List Char)
  | 0, _ => none
  | parts + 1, cs => do
    let (first, rest) ← keyPart? (skipBlanks cs)
    match skipBlanks rest with
    | '.' :: rest =>
      let ((second, others), rest) ← key? parts rest
      return ((first, second :: others), rest)
    | rest => return ((first, []), rest)

/-! ### Values -/

mutual

/-- Reads a value; `fuel` bounds the number of values and `depth` their nesting. -/
def value? (fuel depth : Nat) (cs : List Char) : Option (Toml × List Char) :=
  match fuel with
  | 0 => none
  | fuel + 1 =>
    match cs with
    | '[' :: rest =>
      if depth = 0 then none
      else (items? fuel (depth - 1) rest).map fun (items, after) => (.arr items, after)
    | c :: rest =>
      if c = '\x7b' then
        if depth = 0 then none
        else match skipBlanks rest with
          | '\x7d' :: after => some (.table .inline [], after)
          | rest =>
            (members? fuel (depth - 1) [] rest).map fun (entries, after) =>
              (.table .inline entries, after)
      else if c = '"' ∨ c = '\'' then
        (string? (c :: rest)).map fun (cs, after) => (.str (String.ofList cs), after)
      else scalar? (c :: rest)
    | [] => none

/-- Reads the items of an array up to the closing bracket. A comma may follow the last item. -/
def items? (fuel depth : Nat) (cs : List Char) : Option (List Toml × List Char) :=
  match fuel with
  | 0 => none
  | fuel + 1 =>
    match skipLines cs.length cs with
    | ']' :: after => some ([], after)
    | cs => do
      let (item, rest) ← value? fuel depth cs
      match skipLines rest.length rest with
      | ',' :: rest => (items? fuel depth rest).map fun (items, after) => (item :: items, after)
      | ']' :: after => some ([item], after)
      | _ => none

/-- Reads the members of an inline table up to the closing brace and adds them to `entries`. -/
def members? (fuel depth : Nat) (entries : Entries) (cs : List Char) : Option (Entries × List Char) :=
  match fuel with
  | 0 => none
  | fuel + 1 => do
    let ((first, path), rest) ← key? maxDepth cs
    match rest with
    | '=' :: rest =>
      let (value, rest) ← value? fuel depth (skipBlanks rest)
      let entries ← insertDotted value first path entries
      match skipBlanks rest with
      | ',' :: rest => members? fuel depth entries rest
      | '\x7d' :: after => some (entries, after)
      | _ => none
    | _ => none

end

/-! ### Documents -/

/-- What is known after some lines: the entries of the root table, and the path of the table that the
next keys belong to. -/
structure Document where
  entries : Entries
  path : List String

namespace Document

/-- Opens the table of a header. -/
def openAt? (opened : String → Entries → Option Entries) (doc : Document) (path : List String) :
    Option Document := do
  let last ← path.getLast?
  return ⟨← changeAt (opened last) path.dropLast doc.entries, path⟩

/-- Adds a value to the table of the last header. -/
def put? (doc : Document) (value : Toml) (first : String) (path : List String) : Option Document := do
  return { doc with entries := ← changeAt (insertDotted value first path) doc.path doc.entries }

end Document

/-- Reads a header after its first bracket. -/
def header? (doc : Document) (cs : List Char) : Option (Document × List Char) :=
  match cs with
  | '[' :: rest => do
    let ((first, path), rest) ← key? maxDepth rest
    match rest with
    | ']' :: ']' :: rest => return (← doc.openAt? openNext (first :: path), ← lineRest? rest)
    | _ => none
  | cs => do
    let ((first, path), rest) ← key? maxDepth cs
    match rest with
    | ']' :: rest => return (← doc.openAt? openTable (first :: path), ← lineRest? rest)
    | _ => none

/-- Reads a key with its value. Every value takes at least one character, and so do the marks around
it, so twice the length of the text bounds the steps. -/
def keyValue? (doc : Document) (cs : List Char) : Option (Document × List Char) := do
  let ((first, path), rest) ← key? maxDepth cs
  match rest with
  | '=' :: rest =>
    let (value, rest) ← value? (2 * rest.length + 2) maxDepth (skipBlanks rest)
    return (← doc.put? value first path, ← lineRest? rest)
  | _ => none

/-- Reads lines up to the end of the text; `fuel` bounds their number. -/
def lines? : Nat → Document → List Char → Option Document
  | 0, _, _ => none
  | fuel + 1, doc, cs =>
    match skipBlanks cs with
    | [] => some doc
    | '[' :: rest => do
      let (doc, rest) ← header? doc rest
      lines? fuel doc rest
    | c :: rest =>
      if c = '#' ∨ c = '\n' ∨ c = '\r' then do lines? fuel doc (← lineRest? (c :: rest))
      else do
        let (doc, rest) ← keyValue? doc (c :: rest)
        lines? fuel doc rest

/-- Drops the mark that may stand before a text. -/
def dropMark : List Char → List Char
  | '\uFEFF' :: rest => rest
  | cs => cs

/-- Reads a whole text. Every line but the last takes at least one character. -/
def parse? (s : String) : Option Entries :=
  let cs := dropMark s.toList
  (lines? (cs.length + 1) ⟨[], []⟩ cs).map (·.entries)

end Reminders.Toml
