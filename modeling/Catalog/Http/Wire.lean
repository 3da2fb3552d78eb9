import Catalog.Error
import Catalog.Http.Arrival
import Catalog.Http.Status
import Catalog.Text.Base64
import Catalog.Url.Address
/-!
What becomes of a request on its way to a server, and of the server's reply on its way back. The server is
at one address; nobody listens anywhere else. Redirects are left out: the HTTP client would follow up to ten of
them with requests of its own, and here a reply that names another address is given as it came. So are proxies
and encrypted connections.
-/

set_option autoImplicit false

namespace Catalog.Wire

structure Message where
  method : Method
  target : String
  headers : List Header
  body : List UInt8
  deriving DecidableEq, Repr

inductive Reply where
  /-- Answers, and announces the length of the body, which may be another than its own. -/
  | answer (status : Nat) (reason : String) (body : List UInt8) (announced : Nat)
  | close
  | silence
  deriving DecidableEq, Repr

structure Server where
  host : String
  port : Nat
  deriving DecidableEq, Repr

def Server.owns (server : Server) (address : Url.Address) : Bool :=
  address.scheme == "http" && address.host == some server.host && address.port? == some server.port

def decoded? (text : String) : Option (List Char) :=
  (Utf8.decode (Url.percentDecode text.toList)).toOption

def credentials? (address : Url.Address) : Option Header := do
  let user ← decoded? address.user
  -- A password that is no text counts as none.
  let password := address.password.bind decoded?
  if user.isEmpty && password.isNone then none
  else
    let plain := Utf8.encode (user ++ ':' :: password.getD [])
    some ⟨"authorization", "Basic " ++ String.ofList (Base64.encode plain)⟩

-- The address as faults show it, without the name and the password that a header stands for.
def shown (address : Url.Address) : String :=
  if (credentials? address).isSome then Url.Address.text { address with user := "", password := none }
  else address.text

def isNamed (headers : List Header) (name : String) : Bool :=
  headers.any (·.name == name)

def withDefault (headers : List Header) (header : Header) : List Header :=
  if isNamed headers header.name then headers else headers ++ [header]

def without (headers : List Header) (name : String) : List Header :=
  headers.filter (·.name != name)

def transferEncoding : String := "transfer-encoding"

def contentLength : String := "content-length"

-- The last of some codings ends with chunks.
def inChunks (headers : List Header) : List Header :=
  match headers.reverse with
  | last :: before =>
    if endsChunked [last.value] then headers
    else (⟨last.name, last.value ++ ", chunked"⟩ :: before).reverse
  | [] => []

def bodyHeaders (given : List Header) (body : List UInt8) : List Header :=
  let others := without (without given contentLength) transferEncoding
  if body.isEmpty || !isNamed given transferEncoding then others ++ [⟨contentLength, toString body.length⟩]
  else others ++ inChunks (given.filter (·.name == transferEncoding))

/-- The message of a request to an address. The sender adds who it is and what it accepts, unless the
request says so. -/
def message (agent : String) (request : Request) (address : Url.Address) : Message :=
  let given := request.headers.map fun header => Header.mk header.name.toLower (trimValue header.value)
  let given :=
    match credentials? address with
    | some header => withDefault given header
    | none => given
  let common := withDefault (withDefault given ⟨"accept", "*/*"⟩) ⟨"user-agent", trimValue agent⟩
  { method := request.method
    target := address.target
    headers :=
      match request.body with
      | some body => bodyHeaders common body
      -- What is not there cannot come in pieces.
      | none => without common transferEncoding
    body := request.body.getD [] }

def lineEnd : List UInt8 := [13, 10]

def textBytes (text : String) : List UInt8 :=
  Utf8.encode text.toList

def isReason (reason : String) : Bool :=
  (textBytes reason).all isHeaderByte

def answerBytes (status : Nat) (reason : String) (body : List UInt8) (announced : Nat) : List UInt8 :=
  textBytes ("HTTP/1.1 " ++ toString status ++ " " ++ reason) ++ lineEnd ++
    textBytes ("content-length: " ++ toString announced) ++ lineEnd ++ lineEnd ++ body

def Reply.arrival : Reply → Arrival
  | .close => .closed
  | .silence => .timedOut
  | .answer status reason body announced =>
    -- After a head that only informs the body is what comes next, and so is a part of a reason after its line.
    if informs status || !isReason reason then Arrival.ofBytes (answerBytes status reason body announced)
    else if !isFinal status then .closed
    else if hasNoBody status then .response (UInt16.ofNat status) [] true
    -- What comes after the announced length belongs to nobody.
    else .response (UInt16.ofNat status) (body.take announced) (announced ≤ body.length)

def settle (address : Url.Address) : Arrival → Except TransportFault Response
  | .closed => .error (.closed (shown address))
  | .timedOut => .error (.timedOut (shown address))
  | .response status body isWhole =>
    if isWhole then .ok ⟨status, Http.reasonPhrase status, body⟩ else .error .cutShort

def receive (address : Url.Address) (reply : Reply) : Except TransportFault Response :=
  settle address reply.arrival

-- The seconds that a clock of 63 bits can still count after it has run for some days.
def clockRange : Nat := (1 <<< 63) - (1 <<< 20)

def hasDeadline (timeout : Duration) : Bool :=
  timeout.seconds.toNat < clockRange

-- The longest address that can be sent.
def addressLimit : Nat := 65534

def isSendable (address : Url.Address) : Bool :=
  let marks := ['"', Char.ofNat 96, '\x7b', '\x7d']
  (address.host.getD "").toList.all (fun c => !marks.contains c) && (shown address).length ≤ addressLimit

def destination (url : String) (timeout : Duration) : Except TransportFault Url.Address :=
  match Url.read url with
  | .error fault => .error (.badAddress fault)
  | .ok address =>
    let shown := shown address
    if !address.hasHost then .error (.badScheme shown)
    else if !hasDeadline timeout then .error .endless
    else if address.scheme != "http" && address.scheme != "https" then .error (.badScheme shown)
    else if !isSendable address then .error (.unsendable shown)
    else .ok address

def check (request : Request) : Except Error Url.Address :=
  -- The headers are looked at before the address.
  match headerFault? request.headers with
  | some fault => .error (.config (.header fault))
  | none => (destination request.url request.timeout).mapError (.transport request.url)

end Catalog.Wire
