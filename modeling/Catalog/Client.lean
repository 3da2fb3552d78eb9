import Catalog.Channel
import Catalog.Exchange
import Catalog.Model.Reading

set_option autoImplicit false

namespace Catalog

structure Client (m : Type → Type) where
  config : Config
  span : Span
  transmit : Option Span → Request → m Answer
  record : Event → m Unit

def clientSpan (config : Config) : Span :=
  ⟨"assembly64", [("base_url", config.baseUrl)]⟩

def Client.over (config : Config) : Client (StateM Channel) where
  config := config
  span := clientSpan config
  transmit := fun span request channel => channel.transmit span request
  record := fun event channel => ((), channel.record event)

def Client.withSpan {m : Type → Type} (client : Client m) (span : Span) : Client m :=
  { client with span := span }

-- A client for the wire names its agent in a header, so the name must be a header value.
def checkAgent (config : Config) : Except Error Unit :=
  if isHeaderValue config.userAgent then .ok () else .error (.config .agent)

def Exchange.opening (exchange : Exchange) (span : Span) (request : Request) : List Event :=
  let opened : Event :=
    ⟨.debug, some span, "opening URL", [("method", request.method.text), ("url", request.url)]⟩
  match exchange.body with
  | none => [opened]
  | some body =>
    let attached : Event :=
      ⟨.debug, some span, "attaching request body", [("content_type", exchange.contentType)]⟩
    if exchange.contentType = jsonType then
      [opened, attached, ⟨.debug, some span, "POST data", [("body", body)]⟩]
    else [opened, attached]

def Response.errorText? (response : Response) : Option String :=
  if response.body.isEmpty then none else some (String.ofList (Utf8.lossy response.body))

def Response.closing (response : Response) (span : Span) : List Event :=
  if response.isSuccess then []
  else
    [⟨.error, some span, "HTTP error", [("status", toString response.status), ("reason", response.reason)]⟩,
      match response.errorText? with
      | none => ⟨.info, some span, "no HTTP error body", []⟩
      | some text => ⟨.error, some span, "HTTP error body", [("body", text)]⟩]

def Response.outcome (response : Response) : Except Error (Option (List UInt8)) :=
  if !response.isSuccess then .error (.http response.status response.reason response.errorText?)
  else if response.body.isEmpty then .ok none
  else .ok (some response.body)

section

variable {m : Type → Type} [Monad m]

def Client.send (client : Client m) (exchange : Exchange) (timeout : Timeout) :
    m (Except Error (Option (List UInt8))) := do
  let request := exchange.request client.config timeout
  (exchange.opening client.span request).forM client.record
  match ← client.transmit (some client.span) request with
  | .error error => return .error error
  | .ok response =>
    (response.closing client.span).forM client.record
    return response.outcome

def readBody {α : Type} (read : List UInt8 → Except Error α) :
    Except Error (Option (List UInt8)) → Except Error (Option α)
  | .error error => .error error
  | .ok none => .ok none
  | .ok (some body) => (read body).map some

def Client.exchangeWith {α : Type} (client : Client m) (read : List UInt8 → Except Error α)
    (exchange : Exchange) (timeout : Timeout) : m (Except Error (Option α)) :=
  return readBody read (← client.send exchange timeout)

def readJson {α : Type} (read : Json.Reader α) (body : List UInt8) : Except Error α :=
  (Json.readAll read body).mapError .json

def readText (body : List UInt8) : Except Error String :=
  match Utf8.decode body with
  | .ok text => .ok (String.ofList text)
  | .error failure => .error (.utf8 failure)

def readPayload (contentType : String) (body : List UInt8) : Except Error Payload :=
  if contentType = jsonType then (readJson (Json.value Json.depthLimit) body).map .json
  else if contentType = binaryType then .ok (.binary body)
  else (readText body).map .text

def Client.exchange (client : Client m) (exchange : Exchange) (timeout : Timeout) :
    m (Except Error (Option Payload)) :=
  client.exchangeWith (readPayload exchange.contentType) exchange timeout

def Client.exchangeJson {α : Type} (client : Client m) (read : Json.Reader α) (exchange : Exchange)
    (timeout : Timeout) : m (Except Error (Option α)) :=
  client.exchangeWith (readJson read) exchange timeout

def Client.exchangeBinary (client : Client m) (exchange : Exchange) (timeout : Timeout) :
    m (Except Error (Option (List UInt8))) :=
  client.exchangeWith .ok exchange timeout

def Client.exchangeText (client : Client m) (exchange : Exchange) (timeout : Timeout) :
    m (Except Error (Option String)) :=
  client.exchangeWith readText exchange timeout

def Config.endpoint (config : Config) (path : String) : Exchange :=
  (Exchange.new path).withCookie config.cookie

def Config.presetsExchange (config : Config) : Exchange :=
  config.endpoint "/search/aql/presets"

def Config.searchExchange (config : Config) (query : String) : Exchange :=
  (config.endpoint "/search/aql").withParameter "query" query

def Config.entriesExchange (config : Config) (locator : Locator) : Exchange :=
  config.endpoint ("/search/entries/" ++ locator.id ++ "/" ++ toString locator.category)

def Config.downloadExchange (config : Config) (locator : Locator) (item : UInt32) : Exchange :=
  (config.endpoint ("/search/bin/" ++ locator.id ++ "/" ++ toString locator.category ++ "/" ++
    toString item)).withContentType binaryType

def orBlank {α : Type} (blank : α) (result : Except Error (Option α)) : Except Error α :=
  result.map (·.getD blank)

def Client.presets (client : Client m) : m (Except Error (List Preset)) :=
  return orBlank []
    (← client.exchangeJson (Json.list Preset.schema.read) client.config.presetsExchange client.config.timeout)

def Client.search (client : Client m) (query : String) : m (Except Error (List SearchResult)) :=
  return orBlank []
    (← client.exchangeJson (Json.list SearchResult.schema.read) (client.config.searchExchange query)
      client.config.timeout)

def Client.entries (client : Client m) (locator : Locator) : m (Except Error ContentEntries) :=
  return orBlank .blank
    (← client.exchangeJson ContentEntries.schema.read (client.config.entriesExchange locator)
      client.config.timeout)

def Client.download (client : Client m) (locator : Locator) (item : UInt32) :
    m (Except Error (List UInt8)) :=
  return orBlank [] (← client.exchangeBinary (client.config.downloadExchange locator item) client.config.timeout)

end

end Catalog
