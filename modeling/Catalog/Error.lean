import Catalog.Http.Header
import Catalog.Json.Fault
import Catalog.Url.Host

set_option autoImplicit false

namespace Catalog

inductive ConfigFault where
  | zeroTimeout
  | agent
  | header (fault : HeaderFault)
  | other (text : String)

def ConfigFault.message : ConfigFault → String
  | .zeroTimeout => "timeout must be greater than zero"
  | .agent => "failed to build HTTP client: builder error: failed to parse header value"
  | .header (.name name) => "invalid header name " ++ Text.quoted name ++ ": invalid HTTP header name"
  | .header (.value name) => "invalid value for header " ++ name ++ ": failed to parse header value"
  | .other text => text

inductive TransportFault where
  | badAddress (fault : Url.Fault)
  /-- The time until which a reply is waited for lies beyond the clock. -/
  | endless
  | badScheme (address : String)
  | unsendable (address : String)
  | refused (address : String)
  | closed (address : String)
  | timedOut (address : String)
  | cutShort

def TransportFault.isTimeout : TransportFault → Bool
  | .timedOut _ => true
  | _ => false

def TransportFault.chain : TransportFault → List String
  | .badAddress fault => ["builder error: " ++ fault.message, fault.message]
  | .endless => ["deadline beyond the clock"]
  | .unsendable address =>
    ["builder error for url (" ++ address ++ "): Parsed Url is not a valid Uri", "Parsed Url is not a valid Uri"]
  | .badScheme address =>
    ["builder error for url (" ++ address ++ "): URL scheme is not allowed", "URL scheme is not allowed"]
  | .refused address =>
    ["error sending request for url (" ++ address ++
        "): error trying to connect: tcp connect error: Connection refused (os error 111)",
      "error trying to connect: tcp connect error: Connection refused (os error 111)",
      "tcp connect error: Connection refused (os error 111)",
      "Connection refused (os error 111)"]
  | .closed address =>
    ["error sending request for url (" ++ address ++ "): connection closed before message completed",
      "connection closed before message completed"]
  | .timedOut address =>
    ["error sending request for url (" ++ address ++ "): operation timed out", "operation timed out"]
  | .cutShort =>
    ["request or response body error: error reading a body from connection: " ++
        "end of file before message length reached",
      "error reading a body from connection: end of file before message length reached",
      "end of file before message length reached"]

def TransportFault.message (fault : TransportFault) : String :=
  fault.chain.headD ""

inductive Error where
  | config (fault : ConfigFault)
  | http (status : UInt16) (reason : String) (body : Option String)
  | transport (url : String) (fault : TransportFault)
  | json (failure : Json.Failure)
  | utf8 (failure : Utf8.Failure)

def Error.message : Error → String
  | .config fault => "configuration error: " ++ fault.message
  | .http status reason _ => "HTTP " ++ toString status ++ " " ++ reason
  | .transport url fault => "request to " ++ url ++ " failed: " ++ fault.message
  | .json failure => "invalid JSON response: " ++ failure.message
  | .utf8 failure => "response is not valid UTF-8: " ++ failure.message

def Error.causes : Error → List String
  | .config _ | .http .. => []
  | .transport _ fault => fault.chain
  | .json failure => [failure.message]
  | .utf8 failure => [failure.message]

end Catalog
