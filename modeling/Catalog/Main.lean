import Catalog.App
import Catalog.Http.Stream
import Std.Internal.UV

set_option autoImplicit false

open Catalog
open Std.Internal.UV
open Std.Net

namespace Catalog.Main

def ioError : IO.Error → IoError
  | .noFileOrDirectory .. => .notFound
  | .alreadyExists .. => .exists
  | error => .other (toString error)

def onDisk (act : IO Unit) : IO (Except IoError Unit) := do
  match ← act.toBaseIO with
  | .ok () => return .ok ()
  | .error error => return .error (ioError error)

def disk : Disk IO where
  makeDirectories := fun path => onDisk (IO.FS.createDirAll ⟨path⟩)
  writeFile := fun path bytes => onDisk (IO.FS.writeBinFile ⟨path⟩ ⟨bytes.toArray⟩)

partial def ask {α : Type} (title : String) (read : String → Except String α) : IO (Except PromptFault α) := do
  IO.eprint (title ++ ": ")
  let line ← (← IO.getStdin).getLine
  if line.isEmpty then return .error .endOfInput
  let line := String.ofList (line.toList.takeWhile (· != '\n'))
  if line.isEmpty then ask title read
  else
    match read line with
    | .ok answer => return .ok answer
    | .error refusal =>
      IO.eprintln refusal
      ask title read

def isAttended : IO Bool := do
  (← IO.getStdin).isTty

def console : Console IO where
  print := IO.println
  askText := fun title => do
    if ← isAttended then ask title .ok else return .ok ""
  askNumber := fun title bound => do
    if ← isAttended then ask title (readNumber bound) else return .error .noTerminal

def shownField (field : String × String) : String := " " ++ field.1 ++ "=" ++ field.2

def record (filter : LogFilter) (event : Event) : IO Unit := do
  if filter.shows event.level then
    let span := (event.span.map fun span => span.text ++ ": ").getD ""
    IO.eprintln (event.level.text ++ " " ++ span ++ event.message ++ String.join (event.fields.map shownField))

def await {α : Type} (limit : Task Unit) (promise : IO.Promise (Except IO.Error α)) : IO α := do
  let arrival := promise.result?.map some
  match ← IO.waitAny [arrival, limit.map fun _ => none] (by simp) with
  | some (some (.ok x)) => return x
  | some (some (.error error)) => throw error
  -- A promise that is dropped counts as a closed connection.
  | some none => throw (IO.userError "connection dropped")
  | none => throw (.timeExpired 0 "no reply in time")

def socketAddress (port : Nat) : IPAddr → SocketAddress
  | .v4 addr => .v4 ⟨addr, UInt16.ofNat port⟩
  | .v6 addr => .v6 ⟨addr, UInt16.ofNat port⟩

partial def receiveAll (limit : Task Unit) (socket : TCP.Socket) (done : ByteArray) : IO ByteArray := do
  match ← await limit (← socket.recv? 65536) with
  | some bytes => receiveAll limit socket (done ++ bytes)
  | none => return done

def roundTrip (limit : Task Unit) (message : Wire.Message) (address : Url.Address) : IO Wire.Arrival := do
  let port := address.port?.getD 80
  let found ← await limit (← DNS.getAddrInfo (address.host.getD "") (toString port) 0)
  let some place := found[0]? | throw (IO.userError "no address")
  let socket ← TCP.Socket.new
  await limit (← socket.connect (socketAddress port place))
  await limit (← socket.send #[⟨(message.bytes address).toArray⟩])
  return .ofBytes (← receiveAll limit socket .empty).toList

def milliseconds (duration : Duration) : UInt64 :=
  let total := duration.seconds.toNat * 1000 + duration.nanoseconds.toNat / 1000000
  UInt64.ofNat (max 1 (min total (UInt64.size / 2)))

def timed (duration : Duration) (message : Wire.Message) (address : Url.Address) :
    IO (Except IO.Error Wire.Arrival) := do
  let timer ← Timer.mk (milliseconds duration) false
  let limit := (← timer.next).result?.map fun _ => ()
  let result ← (roundTrip limit message address).toBaseIO
  timer.stop
  match result with
  | .error (.timeExpired ..) => return .ok .timedOut
  | result => return result

def transmit (agent : String) (log : Event → IO Unit) (span : Option Span) (request : Request) : IO Answer := do
  match Wire.check request with
  | .error error => return .error error
  | .ok address =>
    if address.scheme == "https" then
      return .error (.transport request.url (.badScheme (Wire.shown address)))
    else
      match ← timed request.timeout (Wire.message agent request address) address with
      | .error _ => return .error (.transport request.url (.refused (Wire.shown address)))
      | .ok arrival =>
        match Wire.settle address arrival with
        | .error fault => return .error (.transport request.url fault)
        | .ok response =>
          log (responseReceived span response)
          return .ok response

def client (log : Event → IO Unit) (config : Config) : Client IO where
  config := config
  span := clientSpan config
  transmit := transmit config.userAgent log
  record := log

-- Nothing is logged for a command line that is refused.
def filterOf (environment : CommandLine.Environment) (arguments : List String) : LogFilter :=
  match CommandLine.parse environment arguments with
  | .ok arguments => App.logFilter environment arguments
  | .error _ => ⟨none⟩

end Catalog.Main

def main (arguments : List String) : IO UInt32 := do
  let environment : CommandLine.Environment :=
    ⟨← IO.getEnv "ASSEMBLY64_URL", ← IO.getEnv "ASSEMBLY64_COOKIE", ← IO.getEnv "RUST_LOG"⟩
  let log := Main.record (Main.filterOf environment arguments)
  let outcome ← App.run (Main.client log) Main.console Main.disk log environment arguments
  IO.print outcome.output
  IO.eprint outcome.report
  return UInt32.ofNat outcome.exitCode
