import Reminders.CommandLine.Arguments
import Reminders.Config.File
import Reminders.Delivery.Send
import Reminders.Json.Printer
import Reminders.Scheduler.Summary
import Reminders.Scheduler.Tick
import Reminders.Store.File

/-!
Carrying out a command.

`CommandLine.invoke` takes the arguments of the program and gives what it prints and how it ends: zero
when all went well, one after a failure, two when the arguments make no sense, and 101 when a number
did not fit in its word.
-/

namespace Reminders.CommandLine

/-- What the program prints, and the code that it ends with. -/
structure Output where
  code : Nat
  out : String
  err : String
deriving DecidableEq

/-- What stops a command, and what was being done when it happened. -/
structure Stop where
  doing : Option String
  cause : Halt Failure

namespace Stop

/-- A failure that speaks for itself. -/
def of (cause : Failure) : Stop := ⟨none, .refused cause⟩

/-- The code that the program ends with. -/
def code (s : Stop) : Nat :=
  match s.cause with
  | .refused _ => 1
  | .overflow => 101

/-- What is printed about it. -/
def report (s : Stop) : String :=
  match s.cause, s.doing with
  | .refused cause, none => "Error: " ++ cause.message ++ "\n"
  | .refused cause, some doing => "Error: " ++ doing ++ "\n\nCaused by:\n    " ++ cause.message ++ "\n"
  | .overflow, _ => "attempt to multiply with overflow\n"

end Stop

/-- What a program works with. -/
structure Surroundings (m : Type → Type) where
  files : Files m
  now : m Instant
  network : Network

/-- A value as it is printed. -/
def printed (v : Json) : String := v.pretty ++ "\n"

variable {m : Type → Type} [Monad m]

/-- A step whose errors stop the command. -/
def stopping (stop : ε → Stop) (step : m (Except ε α)) : ExceptT Stop m α :=
  ExceptT.mk do return (← step).mapError stop

/-- The configuration that the options ask for. -/
def loadConfig (files : Files m) (options : Options) : ExceptT Stop m Config :=
  stopping (fun h => ⟨none, h.map .config⟩) <|
    match options.config with
    | some path => Config.loadFrom files path
    | none => Config.load files

/-- The path of the store's file. -/
def storePath (files : Files m) (c : Config) : String := Path.expand files.home c.databasePath

/-- Opens the store of a configuration. -/
def openStore (files : Files m) (c : Config) : ExceptT Stop m Store :=
  let path := storePath files c
  stopping (fun f => ⟨some ("opening database at " ++ path), .refused f⟩) (Store.openAt files path)

/-- Keeps the store of a configuration. -/
def keepStore (files : Files m) (c : Config) (s : Store) : ExceptT Stop m Unit :=
  stopping .of (Store.keep files (storePath files c) s)

/-- The time, and the date on a clock at a distance from UTC. -/
def today (around : Surroundings m) (offset : Int) : m (Instant × Date) := do
  let now ← around.now
  return (now, (now.dateIn? offset).getD now.date)

/-- Ticks once, over every kind of channel. -/
def tick (around : Surroundings m) (c : Config) : ExceptT Stop m TickReport := do
  let s ← openStore around.files c
  let engine ← stopping (fun h => ⟨none, h⟩) (pure (Engine.ofConfig c))
  let (now, today) ← (today around engine.offset : m _)
  let sender := Registry.sender ChannelType.all around.network now
  let t := engine.tick sender .open now s today
  keepStore around.files c t.store
  return t.report

/-- The dashboard of a user. What moving subscriptions forward wrote stays, also after a failure. -/
def dashboard (around : Surroundings m) (c : Config) (user : Int) : ExceptT Stop m Summary := do
  let s ← openStore around.files c
  let offset ← stopping (fun h => ⟨none, h.map .config⟩) (pure c.scheduler.offset)
  let (_, today) ← (today around offset : m _)
  let (result, s) := (Script.summary user today).run .open s
  keepStore around.files c s
  stopping .of (pure result)

/-- Makes the store, and the configuration file if none was named and there is none. Gives what is
printed, and what stopped it on the way. -/
def initDb (around : Surroundings m) (options : Options) (c : Config) :
    ExceptT Stop m (String × Option Stop) := do
  let files := around.files
  let _ ← openStore files c
  let ready := "✅ Database ready at " ++ storePath files c ++ "\n"
  let path := Config.defaultPath files.home
  if options.config.isSome then return (ready, none)
  else if ← (files.isThere path : m Bool) then return (ready, none)
  else match ← (Config.save files c : m _) with
    | .ok () => return (ready ++ "📝 Default config written to " ++ path ++ "\n", none)
    | .error f => return (ready, some (.of f))

/-- Carries out a command. -/
def perform (around : Surroundings m) (options : Options) (command : Command) :
    ExceptT Stop m (String × Option Stop) := do
  let c ← loadConfig around.files options
  match command with
  | .initDb => initDb around options c
  | .tick | .run => return (printed (← tick around c).toJson, none)
  | .summary user => return (printed (← dashboard around c user).toJson, none)

/-- What the program does with its arguments. -/
def invoke (around : Surroundings m) (args : List String) : m Output := do
  match parse args with
  | .misuse => return ⟨2, "", ""⟩
  | .inform text => return ⟨0, text, ""⟩
  | .perform options command =>
    match ← (perform around options command).run with
    | .ok (out, none) => return ⟨0, out, ""⟩
    | .ok (out, some stop) => return ⟨stop.code, out, stop.report⟩
    | .error stop => return ⟨stop.code, "", stop.report⟩

end Reminders.CommandLine
