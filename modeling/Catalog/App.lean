import Catalog.CommandLine.Help
import Catalog.Session
import Catalog.World

set_option autoImplicit false

namespace Catalog.App

open CommandLine (Arguments Environment)

def argumentsText (arguments : Arguments) : String :=
  "Args \x7b base_url: " ++ Text.quoted arguments.baseUrl ++
    ", timeout: " ++ toString arguments.timeout ++
    ", cookie: " ++ optionText Text.quoted arguments.cookie ++
    ", name: " ++ optionText Text.quoted arguments.name ++
    ", kind: " ++ Text.quoted arguments.kind ++
    ", category: " ++ Text.quoted arguments.category ++
    ", output_dir: " ++ Text.quoted arguments.outputDir ++
    ", verbose: " ++ toString arguments.verbose ++
    ", quiet: " ++ toString arguments.quiet ++ " \x7d"

def parsedEvent (arguments : Arguments) : Event :=
  ⟨.debug, none, "CLI arguments parsed", [("args", argumentsText arguments)]⟩

def logFilter (environment : Environment) (arguments : Arguments) : LogFilter :=
  -- A filter that is not understood counts as none.
  (environment.logFilter.bind LogFilter.read?).getD ⟨some arguments.logLevel⟩

def shownEvents (environment : Environment) (arguments : List String) (events : List Event) : List Event :=
  match CommandLine.parse environment arguments with
  | .error _ => []
  | .ok arguments => events.filter fun event => (logFilter environment arguments).shows event.level

def config (arguments : Arguments) : Except Error Config := do
  let timeout ← Timeout.check (.ofSeconds (UInt64.ofNat arguments.timeout))
  let plain := Config.new arguments.baseUrl timeout
  return match arguments.cookie with
    | some cookie => plain.withCookie cookie
    | none => plain

def searchOptions (arguments : Arguments) : SearchOptions :=
  ⟨arguments.name, arguments.kind, arguments.category, arguments.outputDir⟩

inductive Fault where
  | setting (error : Error)
  | session (failure : Failure)

def Fault.message : Fault → String
  | .setting error => error.message
  | .session failure => failure.message

def Fault.causes : Fault → List String
  | .setting error => error.causes
  | .session failure => failure.causes

def under (column : Nat) (text : String) : String :=
  CommandLine.indented column text

def numberedCause (index : Nat) (cause : String) : String :=
  -- Later lines of a cause start under its first.
  let number := toString index
  "\n" ++ CommandLine.blanks (5 - number.length) ++ number ++ ": " ++ under 7 cause

def Fault.report (fault : Fault) : String :=
  let causes :=
    match fault.causes with
    | [] => ""
    | [cause] => "\n\nCaused by:\n    " ++ under 4 cause
    | causes => "\n\nCaused by:" ++ String.join (causes.mapIdx numberedCause)
  "Error: " ++ fault.message ++ causes ++ "\n"

structure Outcome where
  exitCode : Nat
  output : String
  report : String
  deriving DecidableEq, Repr

def ofStop (environment : Environment) : CommandLine.Stop → Outcome
  | .help => ⟨0, CommandLine.helpText environment, ""⟩
  | .version => ⟨0, CommandLine.versionText, ""⟩
  | .fault fault => ⟨2, "", fault.message ++ "\n\nFor more information, try '--help'.\n"⟩

def ofSession : Except Fault Unit → Outcome
  | .ok () => ⟨0, "", ""⟩
  -- A session that needs a terminal where there is none, or a deadline beyond the clock, is broken off.
  | .error (.session (.prompt .noTerminal)) => ⟨101, "", ""⟩
  | .error (.session (.exchange _ (.transport _ .endless))) => ⟨101, "", ""⟩
  | .error fault => ⟨1, "", fault.report⟩

section

variable {m : Type → Type} [Monad m]

def runWith (connect : Config → Client m) (console : Console m) (disk : Disk m) (record : Event → m Unit)
    (arguments : Arguments) : ExceptT Fault m Unit := do
  ExceptT.lift (record (parsedEvent arguments))
  match config arguments with
  | .error error => throw (.setting error)
  | .ok config => (session (connect config) console disk (searchOptions arguments)).adapt .session

def run (connect : Config → Client m) (console : Console m) (disk : Disk m) (record : Event → m Unit)
    (environment : Environment) (arguments : List String) : m Outcome :=
  match CommandLine.parse environment arguments with
  | .error stop => return ofStop environment stop
  | .ok arguments => return ofSession (← (runWith connect console disk record arguments).run)

end

def runIn (environment : Environment) (arguments : List String) (world : World) : Outcome × World :=
  run World.client World.console World.disk
    (fun event => World.onChannel fun channel => ((), channel.record event)) environment arguments world

end Catalog.App
