import Catalog.Proofs.Journal
import Catalog.Proofs.Outcomes

set_option autoImplicit false

namespace Catalog

inductive Announces (span : Span) (exchange : Exchange) : List Event → Prop where
  | bare (absent : exchange.body = none) : Announces span exchange []
  | withheld (body : String) (present : exchange.body = some body)
    (other : exchange.contentType ≠ "application/json") :
    Announces span exchange
      [⟨.debug, some span, "attaching request body", [("content_type", exchange.contentType)]⟩]
  | shown (body : String) (present : exchange.body = some body) (json : exchange.contentType = "application/json") :
    Announces span exchange
      [⟨.debug, some span, "attaching request body", [("content_type", exchange.contentType)]⟩,
        ⟨.debug, some span, "POST data", [("body", body)]⟩]

def statusEvent (span : Span) (response : Response) : Event :=
  ⟨.error, some span, "HTTP error", [("status", toString response.status), ("reason", response.reason)]⟩

inductive Closes {α : Type} (span : Span) : Answer → Except Error (Option α) → List Event → Prop where
  | unanswered (error : Error) (result : Except Error (Option α)) : Closes span (.error error) result []
  | succeeded (response : Response) (result : Except Error (Option α)) (succeeds : response.Succeeds) :
    Closes span (.ok response) result []
  | untold (response : Response) (fails : ¬ response.Succeeds) (bare : response.body = []) :
    Closes span (.ok response) (.error (.http response.status response.reason none))
      [statusEvent span response, ⟨.info, some span, "no HTTP error body", []⟩]
  | told (response : Response) (text : String) (fails : ¬ response.Succeeds) (filled : response.body ≠ []) :
    Closes span (.ok response) (.error (.http response.status response.reason (some text)))
      [statusEvent span response, ⟨.error, some span, "HTTP error body", [("body", text)]⟩]

structure Recorded {α : Type} (span : Span) (exchange : Exchange) (request : Request) (before : Channel)
    (answer : Answer) (run : Except Error (Option α) × Channel) : Prop where
  sent : before.Sent [(request, answer)] run.2
  events : ∃ announced closing, Announces span exchange announced ∧ Closes span answer run.1 closing ∧
    run.2.events = before.events ++
      ⟨.debug, some span, "opening URL", [("method", request.method.text), ("url", request.url)]⟩ ::
        (announced ++ closing)

def Withholds {α : Type} (config : Config) (exchange : Exchange) (timeout : Timeout) (channel elsewhere : Channel)
    (call : Exchange → Channel → Except Error (Option α) × Channel) : Prop :=
  ∀ (body again : String) (answer : Answer),
    channel.Sent [((exchange.withBody body).request config timeout, answer)]
      (call (exchange.withBody body) channel).2 →
    elsewhere.Sent [((exchange.withBody again).request config timeout, answer)]
      (call (exchange.withBody again) elsewhere).2 →
    ∃ events, (call (exchange.withBody body) channel).2.events = channel.events ++ events ∧
      (call (exchange.withBody again) elsewhere).2.events = elsewhere.events ++ events

section

variable (span : Span)

theorem opening_announces (exchange : Exchange) (request : Request) :
    ∃ announced, Announces span exchange announced ∧ exchange.opening span request =
      ⟨.debug, some span, "opening URL", [("method", request.method.text), ("url", request.url)]⟩ :: announced := by
  unfold Exchange.opening
  cases body : exchange.body with
  | none => exact ⟨_, .bare body, rfl⟩
  | some text =>
    by_cases json : exchange.contentType = jsonType
    · simp only [if_pos json]
      exact ⟨_, .shown text body json, rfl⟩
    · simp only [if_neg json]
      exact ⟨_, .withheld text body json, rfl⟩

theorem closing_closes {α : Type} (read : List UInt8 → Except Error α) (response : Response) :
    Closes span (.ok response) (readBody read response.outcome) (response.closing span) := by
  unfold Response.closing Response.outcome
  cases accepted : response.isSuccess with
  | true => exact .succeeded response _ (response.isSuccess_iff.1 accepted)
  | false =>
    have fails := response.isSuccess_eq_false_iff.1 accepted
    have tells := tells_errorText? response
    cases told : response.errorText? with
    | none => exact .untold response fails (tells.absent.1 told)
    | some text =>
      have filled : response.body ≠ [] := by simp [← tells.absent, told]
      exact .told response text fails filled

theorem closingEvents_closes {α : Type} (read : List UInt8 → Except Error α) (answer : Answer) :
    Closes span answer (readBody read (answer.bind Response.outcome)) (closingEvents span answer) := by
  cases answer with
  | error error => exact .unanswered error _
  | ok response => exact closing_closes span read response

end

section

variable (config : Config) (span : Span) (exchange : Exchange) (timeout : Timeout) {channel elsewhere : Channel}

theorem Channel.events_send (quiet : channel.transport.isLogging = false) :
    ∃ answer, channel.Sent [(exchange.request config timeout, answer)]
        (((Client.over config).withSpan span).send exchange timeout channel).2 ∧
      (((Client.over config).withSpan span).send exchange timeout channel).1 = answer.bind Response.outcome ∧
      (((Client.over config).withSpan span).send exchange timeout channel).2.events = channel.events ++
        (exchange.opening span (exchange.request config timeout) ++ closingEvents span answer) := by
  rw [send_eq]
  refine ⟨_, (channel.sent_opened span _ _).trans (Channel.sent_logs _ _), rfl, ?_⟩
  simp [Channel.logs, events_transmit, Transport.received_quiet quiet]

theorem recorded_of_send {α : Type} (read : List UInt8 → Except Error α) {answer : Answer}
    {sent : Except Error (Option (List UInt8)) × Channel}
    (handed : channel.Sent [(exchange.request config timeout, answer)] sent.2)
    (result : sent.1 = answer.bind Response.outcome)
    (events : sent.2.events = channel.events ++
      (exchange.opening span (exchange.request config timeout) ++ closingEvents span answer)) :
    Recorded span exchange (exchange.request config timeout) channel answer (readBody read sent.1, sent.2) := by
  obtain ⟨announced, announces, opening⟩ := opening_announces span exchange (exchange.request config timeout)
  refine ⟨handed, announced, closingEvents span answer, announces, ?_, ?_⟩
  · rw [result]
    exact closingEvents_closes span read answer
  · rw [events, opening, List.cons_append]

theorem opening_withBody (other : exchange.contentType ≠ "application/json") (body again : String) :
    (exchange.withBody body).opening span ((exchange.withBody body).request config timeout) =
      (exchange.withBody again).opening span ((exchange.withBody again).request config timeout) := by
  have withheld : exchange.contentType ≠ jsonType := other
  simp [Exchange.opening, Exchange.withBody, Exchange.request, Exchange.url, withheld]

theorem withholds_exchangeWith {α : Type} (read : List UInt8 → Except Error α)
    (quiet : channel.transport.isLogging = false) (quietElsewhere : elsewhere.transport.isLogging = false)
    (other : exchange.contentType ≠ "application/json") :
    Withholds config exchange timeout channel elsewhere
      fun exchange => ((Client.over config).withSpan span).exchangeWith read exchange timeout := by
  intro body again answer first second
  obtain ⟨given, sent, -, events⟩ := Channel.events_send config span (exchange.withBody body) timeout quiet
  obtain ⟨found, handed, -, more⟩ := Channel.events_send config span (exchange.withBody again) timeout quietElsewhere
  obtain rfl : answer = given := by simpa using first.unique sent
  obtain rfl : answer = found := by simpa using second.unique handed
  refine ⟨_, events, ?_⟩
  rw [opening_withBody config span exchange timeout other body again]
  exact more

/-- Whichever way its answer is read, an exchange over a transport that records nothing is recorded the same way, and
of bodies that are not JSON nothing is recorded but that there is one. -/
theorem Channel.exchange_recorded (quiet : channel.transport.isLogging = false)
    (quietElsewhere : elsewhere.transport.isLogging = false) :
    (∃ answer,
      Recorded span exchange (exchange.request config timeout) channel answer
        (((Client.over config).withSpan span).exchange exchange timeout channel) ∧
      (∀ {α : Type} (read : Json.Reader α), Recorded span exchange (exchange.request config timeout) channel answer
        (((Client.over config).withSpan span).exchangeJson read exchange timeout channel)) ∧
      Recorded span exchange (exchange.request config timeout) channel answer
        (((Client.over config).withSpan span).exchangeBinary exchange timeout channel) ∧
      Recorded span exchange (exchange.request config timeout) channel answer
        (((Client.over config).withSpan span).exchangeText exchange timeout channel)) ∧
    (exchange.contentType ≠ "application/json" →
      Withholds config exchange timeout channel elsewhere
        (fun exchange => ((Client.over config).withSpan span).exchange exchange timeout) ∧
      (∀ {α : Type} (read : Json.Reader α), Withholds config exchange timeout channel elsewhere
        fun exchange => ((Client.over config).withSpan span).exchangeJson read exchange timeout) ∧
      Withholds config exchange timeout channel elsewhere
        (fun exchange => ((Client.over config).withSpan span).exchangeBinary exchange timeout) ∧
      Withholds config exchange timeout channel elsewhere
        fun exchange => ((Client.over config).withSpan span).exchangeText exchange timeout) := by
  constructor
  · obtain ⟨answer, sent, result, events⟩ := events_send config span exchange timeout quiet
    refine ⟨answer, ?_, fun read => ?_, ?_, ?_⟩
    · exact recorded_of_send config span exchange timeout (readPayload exchange.contentType) sent result events
    · exact recorded_of_send config span exchange timeout (readJson read) sent result events
    · exact recorded_of_send config span exchange timeout .ok sent result events
    · exact recorded_of_send config span exchange timeout readText sent result events
  · intro other
    have withholds {α : Type} (read : List UInt8 → Except Error α) :=
      withholds_exchangeWith config span exchange timeout read quiet quietElsewhere other
    exact ⟨withholds (readPayload exchange.contentType), fun read => withholds (readJson read), withholds .ok,
      withholds readText⟩

end

namespace Sample

def host : Config := .new "http://h" ⟨⟨2, 0⟩, by decide⟩

def note : Exchange := (Exchange.new "/notes").withContentType "text/plain"

def missing : Channel := .new (.reactive fun _ => .ok ⟨404, "Not Found", [0x6e, 0x6f]⟩)

end Sample

theorem Channel.exchange_recorded_second : ∃ events : List Event, events.length = 4 ∧
    (((Client.over Sample.host).withSpan (clientSpan Sample.host)).exchangeText (Sample.note.withBody "a")
      Sample.host.timeout Sample.missing).2.events = events ∧
    (((Client.over Sample.host).withSpan (clientSpan Sample.host)).exchangeText (Sample.note.withBody "b")
      Sample.host.timeout Sample.missing).2.events = events := by
  have quiet : Sample.missing.transport.isLogging = false := rfl
  have withholds := ((exchange_recorded Sample.host (clientSpan Sample.host) Sample.note Sample.host.timeout
    quiet quiet).2 (by decide)).2.2.2
  obtain ⟨events, first, second⟩ := withholds "a" "b" (.ok ⟨404, "Not Found", [0x6e, 0x6f]⟩) ⟨rfl, rfl⟩ ⟨rfl, rfl⟩
  refine ⟨events, ?_, first, second⟩
  exact (congrArg List.length first).symm

end Catalog
