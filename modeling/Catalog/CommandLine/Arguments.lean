import Catalog.CommandLine.Option
import Catalog.Config
import Catalog.Log
/-!
Reading a command line. Arguments are taken from left to right. An option whose value may still follow is
pending; it is settled when the next option comes or the arguments end, so a fault of its value shows only
then.
-/

set_option autoImplicit false

namespace Catalog.CommandLine

structure Environment where
  baseUrl : Option String
  cookie : Option String
  logFilter : Option String
  deriving DecidableEq, Repr

structure Arguments where
  baseUrl : String
  timeout : Nat
  cookie : Option String
  name : Option String
  kind : String
  category : String
  outputDir : String
  verbose : Nat
  quiet : Bool
  deriving DecidableEq, Repr

def Arguments.logLevel (arguments : Arguments) : Level :=
  if arguments.quiet then .error
  else
    match arguments.verbose with
    | 0 => .warn
    | 1 => .debug
    | _ => .trace

inductive Stop where
  | help
  | version
  | fault (fault : Fault)
  deriving DecidableEq, Repr

structure State where
  /-- What has been given, in the order of its last settling. -/
  given : List Given
  /-- The option whose value may still follow, and its value if it has come. -/
  pending : Option (Setting × Option String)
  isTrailing : Bool
  deriving DecidableEq, Repr

def State.start : State := ⟨[], none, false⟩

def State.has (state : State) (setting : Setting) : Bool :=
  state.given.any (·.setting == setting)

def State.add (state : State) (given : Given) : State :=
  { state with given := state.given ++ [given] }

-- The largest count of verbosity; further flags change nothing.
def countLimit : Nat := 255

def State.verbosity (state : State) : Nat :=
  match state.given.find? (·.setting == .verbose) with
  | some (.verbose count) => count
  | _ => 0

def readValue (setting : Setting) (value : String) : Except Fault Given :=
  match setting with
  | .timeout =>
    match Unsigned.readWord value with
    | .error fault => .error (.invalidNumber .timeout value fault)
    | .ok n => if n = 0 then .error (.zero .timeout value) else .ok (.timeout n)
  | .outputDir => if value.isEmpty then .error (.missingValue .outputDir) else .ok (.text .outputDir value)
  | setting => .ok (.text setting value)

def State.settle (state : State) (setting : Setting) (value : Option String) : Except Stop State :=
  match value with
  | none => .error (.fault (.missingValue setting))
  | some value =>
    if state.has setting then .error (.fault (.repeated setting))
    else
      match readValue setting value with
      | .error fault => .error (.fault fault)
      | .ok given => .ok (state.add given)

def State.flush (state : State) : Except Stop State :=
  match state.pending with
  | none => .ok state
  | some (setting, value) => { state with pending := none }.settle setting value

def State.flag (state : State) (setting : Setting) : Except Stop State := do
  let state ← state.flush
  match setting with
  | .help => .error .help
  | .version => .error .version
  | .verbose =>
    -- The count moves to the end: it was settled last.
    let others := state.given.filter (·.setting != .verbose)
    .ok { state with given := others ++ [.verbose (min (state.verbosity + 1) countLimit)] }
  | .quiet => if state.has .quiet then .error (.fault (.repeated .quiet)) else .ok (state.add .quiet)
  | _ => .ok state

def State.attached (state : State) (setting : Setting) (value : String) : Except Stop State := do
  let state ← state.flush
  state.settle setting (some value)

def State.expect (state : State) (setting : Setting) : Except Stop State := do
  let state ← state.flush
  .ok { state with pending := some (setting, none) }

-- An argument that is no option can only be the value of the pending one.
def State.plain (state : State) (argument : String) : Except Stop State :=
  match state.pending, state.isTrailing with
  | some (setting, none), false => .ok { state with pending := some (setting, some argument) }
  | _, _ => .error (.fault (.unknown argument))

def State.longOption (state : State) (text : List Char) : Except Stop State :=
  let name := text.takeWhile (· != '=')
  let value := (text.dropWhile (· != '=')).tail?.map String.ofList
  match Setting.ofLong? name, value with
  | none, _ => .error (.fault (.unknown ("--" ++ String.ofList name)))
  | some setting, some value =>
    if setting.takesValue then state.attached setting value
    else .error (.fault (.unneededValue setting value))
  | some setting, none => if setting.takesValue then state.expect setting else state.flag setting

def State.shortOptions (state : State) : List Char → Except Stop State
  | [] => .ok state
  | c :: rest =>
    match Setting.ofShort? c with
    | none => .error (.fault (.unknown (String.ofList ['-', c])))
    | some setting =>
      if setting.takesValue then
        match rest with
        -- What is left of the letters is the value.
        | [] => state.expect setting
        | '=' :: value => state.attached setting (String.ofList value)
        | value => state.attached setting (String.ofList value)
      else do
        let state ← state.flag setting
        state.shortOptions rest

def State.take (state : State) (argument : String) : Except Stop State :=
  if state.isTrailing then state.plain argument
  else
    match argument.toList with
    | ['-', '-'] => .ok { state with isTrailing := true }
    | '-' :: '-' :: text => state.longOption text
    | '-' :: c :: rest => state.shortOptions (c :: rest)
    | _ => state.plain argument

def State.takeAll : State → List String → Except Stop State
  | state, [] => state.flush
  | state, argument :: rest => do
    let state ← state.take argument
    state.takeAll rest

def State.conflict? (state : State) : Option Fault :=
  -- The one that was settled first is named first.
  match (state.given.map Given.setting).filter fun setting => setting == .verbose || setting == .quiet with
  | first :: second :: _ => some (.together first second)
  | _ => none

def State.text? (state : State) (setting : Setting) : Option String :=
  state.given.findSome? fun
    | .text found value => if found = setting then some value else none
    | _ => none

def State.timeout? (state : State) : Option Nat :=
  state.given.findSome? fun
    | .timeout seconds => some seconds
    | _ => none

-- What is given, else what the environment has, else the default.
def State.arguments (state : State) (environment : Environment) : Arguments where
  baseUrl := (state.text? .baseUrl <|> environment.baseUrl).getD defaultBaseUrl
  timeout := state.timeout?.getD defaultTimeoutSeconds
  cookie := state.text? .cookie <|> environment.cookie
  name := state.text? .name
  kind := (state.text? .kind).getD "d64"
  category := (state.text? .category).getD "games"
  outputDir := (state.text? .outputDir).getD "."
  verbose := state.verbosity
  quiet := state.has .quiet

def parse (environment : Environment) (arguments : List String) : Except Stop Arguments := do
  let state ← State.start.takeAll arguments
  match state.conflict? with
  | some fault => .error (.fault fault)
  | none => .ok (state.arguments environment)

end Catalog.CommandLine
