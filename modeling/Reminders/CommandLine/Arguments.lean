import Reminders.Text.Numeral
import Reminders.Text.Width

/-!
Arguments.

Options stand before the command, and what stands after it belongs to the command. Arguments are
read from the left, so of a request for help and a mistake the first one counts.
-/

namespace Reminders.CommandLine

/-- What the program is asked to do. -/
inductive Command where
  /-- Tick over and over. -/
  | run
  /-- Tick once. -/
  | tick
  /-- Make the store and the configuration file. -/
  | initDb
  /-- Show the dashboard of a user. -/
  | summary (user : Int)
deriving DecidableEq

/-- What is said before the command. -/
structure Options where
  /-- The path of the configuration file, in place of the usual one. -/
  config : Option String
  verbose : Bool
deriving DecidableEq

/-- What the arguments come to. -/
inductive Invocation where
  | perform (options : Options) (command : Command)
  /-- A text is shown and nothing done. -/
  | inform (text : String)
  /-- The arguments make no sense. -/
  | misuse
deriving DecidableEq

/-! ### Texts -/

/-- The version. -/
def versionText : String := "renewly 0.2.0\n"

/-- How the program is used. -/
def helpText : String :=
  "🔔 Renewly: subscription billing reminders\n\n" ++
  "Usage: renewly [OPTIONS] <COMMAND>\n\n" ++
  "Commands:\n" ++
  "  run      Run the scheduler loop\n" ++
  "  tick     Run a single tick and print the report\n" ++
  "  init-db  Create the database schema and write a default config if none exists\n" ++
  "  summary  Print the dashboard summary for one user\n" ++
  "  help     Print this message or the help of the given subcommand(s)\n\n" ++
  "Options:\n" ++
  "  -c, --config <CONFIG>  Config file (default: ~/.renewly/config.toml)\n" ++
  "  -v, --verbose          Verbose logging\n" ++
  "  -h, --help             Print help\n" ++
  "  -V, --version          Print version\n"

/-- How a command without options is used. -/
def plainHelp (name about : String) : String :=
  about ++ "\n\nUsage: renewly " ++ name ++ "\n\nOptions:\n  -h, --help  Print help\n"

def runHelp : String := plainHelp "run" "Run the scheduler loop"

def tickHelp : String := plainHelp "tick" "Run a single tick and print the report"

def initDbHelp : String :=
  plainHelp "init-db" "Create the database schema and write a default config if none exists"

def summaryHelp : String :=
  "Print the dashboard summary for one user\n\n" ++
  "Usage: renewly summary --user-id <USER_ID>\n\n" ++
  "Options:\n" ++
  "      --user-id <USER_ID>  \n" ++
  "  -h, --help               Print help\n"

def helpHelp : String :=
  "Print this message or the help of the given subcommand(s)\n\n" ++
  "Usage: renewly help [COMMAND]...\n\n" ++
  "Arguments:\n" ++
  "  [COMMAND]...  Print help for the subcommand(s)\n"

/-! ### Single arguments -/

/-- What an argument looks like. -/
inductive Argument where
  /-- Two hyphens. -/
  | stop
  /-- A name behind two hyphens, with the value behind an equals sign. -/
  | long (name : String) (value : Option String)
  /-- Letters behind a hyphen. -/
  | short (letters : List Char)
  | plain (text : String)

/-- Reads an argument. A hyphen alone is a plain one. -/
def Argument.of (arg : String) : Argument :=
  match arg.toList with
  | ['-', '-'] => .stop
  | '-' :: '-' :: rest =>
    let name := rest.takeWhile (· ≠ '=')
    let value := match rest.drop name.length with
      | [] => none
      | _ :: value => some (String.ofList value)
    .long (String.ofList name) value
  | '-' :: c :: rest => .short (c :: rest)
  | _ => .plain arg

/-- An integer of 64 bits: a sign if there is one, and digits. -/
def integer? (s : String) : Option Int :=
  let (negative, digits) := match s.toList with
    | '-' :: rest => (true, rest)
    | '+' :: rest => (false, rest)
    | rest => (false, rest)
  if digits ≠ [] && digits.all Numeral.isDigit then
    let n : Int := if negative then -(Numeral.value digits : Int) else Numeral.value digits
    if Width.IsInt64 n then some n else none
  else none

/-! ### After the command -/

/-- Whether an argument asks for help. -/
def asksForHelp : Argument → Bool
  | .long "help" none => true
  | .short ('h' :: _) => true
  | _ => false

/-- The arguments of a command that takes none. -/
def plain (options : Options) (command : Command) (help : String) : List String → Invocation
  | [] => .perform options command
  | arg :: rest =>
    match Argument.of arg with
    | .stop => if rest = [] then .perform options command else .misuse
    | a => if asksForHelp a then .inform help else .misuse

/-- The arguments of the command that shows a dashboard, when the user is known or not. -/
def summary (options : Options) (user : Option Int) : List String → Invocation
  | [] => match user with
    | some user => .perform options (.summary user)
    | none => .misuse
  | arg :: rest =>
    match Argument.of arg with
    | .stop => match rest, user with
      | [], some user => .perform options (.summary user)
      | _, _ => .misuse
    | .long "user-id" value =>
      if user.isSome then .misuse
      else match value, rest with
        | some value, rest => match integer? value with
          | some user => summary options (some user) rest
          | none => .misuse
        | none, value :: rest => match Argument.of value, integer? value with
          | .plain _, some user => summary options (some user) rest
          | _, _ => .misuse
        | none, [] => .misuse
    | a => if asksForHelp a then .inform summaryHelp else .misuse

/-- The help of a command. -/
def help : List String → Invocation
  | [] => .inform helpText
  | ["run"] => .inform runHelp
  | ["tick"] => .inform tickHelp
  | ["init-db"] => .inform initDbHelp
  | ["summary"] => .inform summaryHelp
  | ["help"] => .inform helpHelp
  | _ => .misuse

/-! ### Before the command -/

/-- What letters behind a hyphen come to. -/
inductive Letters where
  | done (options : Options)
  /-- The value of the last letter is the next argument. -/
  | awaiting (options : Options)
  | settled (invocation : Invocation)

/-- The options with the path of a configuration file, which may be given once and not be empty. -/
def Options.withConfig? (o : Options) (path : String) : Option Options :=
  if o.config.isSome || path = "" then none else some { o with config := some path }

/-- The options with more said, which may be asked for once. -/
def Options.withVerbose? (o : Options) : Option Options :=
  if o.verbose then none else some { o with verbose := true }

/-- Reads letters behind a hyphen. -/
def letters (options : Options) : List Char → Letters
  | [] => .done options
  | 'c' :: rest =>
    if rest = [] then .awaiting options
    else
      let value := if rest.head? = some '=' then rest.drop 1 else rest
      match options.withConfig? (String.ofList value) with
      | some options => .done options
      | none => .settled .misuse
  | 'v' :: rest =>
    match options.withVerbose? with
    | some options => letters options rest
    | none => .settled .misuse
  | 'h' :: _ => .settled (.inform helpText)
  | 'V' :: _ => .settled (.inform versionText)
  | _ => .settled .misuse

/-- Reads the arguments from the options on. -/
def arguments (options : Options) : List String → Invocation
  | [] => .misuse
  | arg :: rest =>
    match Argument.of arg with
    | .plain "run" => plain options .run runHelp rest
    | .plain "tick" => plain options .tick tickHelp rest
    | .plain "init-db" => plain options .initDb initDbHelp rest
    | .plain "summary" => summary options none rest
    | .plain "help" => help rest
    | .plain _ => .misuse
    | .stop => .misuse
    | .long "help" none => .inform helpText
    | .long "version" none => .inform versionText
    | .long "verbose" none => match options.withVerbose? with
      | some options => arguments options rest
      | none => .misuse
    | .long "config" (some path) => match options.withConfig? path with
      | some options => arguments options rest
      | none => .misuse
    | .long "config" none => match rest with
      | value :: rest => match Argument.of value, options.withConfig? value with
        | .plain _, some options => arguments options rest
        | _, _ => .misuse
      | [] => .misuse
    | .long _ _ => .misuse
    | .short cs => match letters options cs with
      | .done options => arguments options rest
      | .settled invocation => invocation
      | .awaiting options => match rest with
        | value :: rest => match Argument.of value, options.withConfig? value with
          | .plain _, some options => arguments options rest
          | _, _ => .misuse
        | [] => .misuse

/-- Reads the arguments of the program. -/
def parse (args : List String) : Invocation := arguments ⟨none, false⟩ args

end Reminders.CommandLine
