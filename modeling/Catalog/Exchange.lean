import Catalog.Config
import Catalog.Url.Form
import Catalog.Json.Value

set_option autoImplicit false

namespace Catalog

def jsonType : String := "application/json"

def binaryType : String := "application/octet-stream"

structure Exchange where
  path : String
  body : Option String
  query : Option (List Form.Pair)
  contentType : String
  /-- Without a method of its own an exchange posts its body, or gets where it has none. -/
  method : Option Method
  cookie : Option String
  deriving DecidableEq, Repr

def Exchange.new (path : String) : Exchange :=
  ⟨path, none, none, jsonType, none, none⟩

def Exchange.withParameter (exchange : Exchange) (name value : String) : Exchange :=
  { exchange with query := some (exchange.query.getD [] ++ [⟨name, value⟩]) }

def Exchange.withBody (exchange : Exchange) (body : String) : Exchange :=
  { exchange with body := some body }

def Exchange.withContentType (exchange : Exchange) (contentType : String) : Exchange :=
  { exchange with contentType := contentType }

def Exchange.withMethod (exchange : Exchange) (method : Method) : Exchange :=
  { exchange with method := some method }

def Exchange.withCookie (exchange : Exchange) (cookie : Option String) : Exchange :=
  { exchange with cookie := cookie }

def Exchange.url (exchange : Exchange) (baseUrl : String) : String :=
  match exchange.query with
  | some pairs => baseUrl ++ exchange.path ++ "?" ++ Form.encode pairs
  | none => baseUrl ++ exchange.path

-- The headers that a cookie brings along.
def sessionHeaders (baseUrl cookie : String) : List Header :=
  [⟨"cookie", cookie⟩, ⟨"origin", baseUrl⟩, ⟨"accept", "text/html"⟩, ⟨"cache-control", "max-age=0"⟩]

def Exchange.headers (exchange : Exchange) (baseUrl : String) : List Header :=
  (if exchange.body.isSome then [Header.mk "Content-Type" exchange.contentType] else []) ++
    match exchange.cookie with
    | some cookie => sessionHeaders baseUrl cookie
    | none => []

def Exchange.request (exchange : Exchange) (config : Config) (timeout : Timeout) : Request where
  method := exchange.method.getD (if exchange.body.isSome then .post else .get)
  url := exchange.url config.baseUrl
  headers := exchange.headers config.baseUrl
  body := exchange.body.map fun body => Utf8.encode body.toList
  timeout := timeout.duration

inductive Payload where
  | json (value : Json.Value)
  | binary (bytes : List UInt8)
  | text (text : String)

end Catalog
