import Mathlib.Data.List.Forall2
import Catalog.Proofs.Coupling
import Catalog.Proofs.Downloads
import Catalog.Proofs.Journal

set_option autoImplicit false

namespace Catalog

def Header.isSession (header : Header) : Bool :=
  ["cookie", "origin", "accept", "cache-control"].contains header.name

def Header.Alike (first second : Header) : Prop :=
  second.name = first.name ∧ (first.name = "cookie" ∨ second.value = first.value)

structure Request.Alike (cookie other : Option String) (first second : Request) : Prop where
  method : second.method = first.method
  url : second.url = first.url
  body : second.body = first.body
  timeout : second.timeout = first.timeout
  headers : second.headers.filter (!·.isSession) = first.headers.filter (!·.isSession)
  cookies : cookie.isSome = true → other.isSome = true → List.Forall₂ Header.Alike first.headers second.headers

-- Events of a client are above this level; a transport records its own events at it.
def Event.isClients (event : Event) : Bool :=
  event.level != .trace

structure Channel.Alike (cookie other : Option String) (first second : Channel) : Prop where
  requests : List.Forall₂ (Request.Alike cookie other) first.requests second.requests
  answers : second.answers = first.answers
  events : second.events.filter Event.isClients = first.events.filter Event.isClients
  journal : second.transport.isLogging = first.transport.isLogging → second.events = first.events

theorem Header.Alike.refl (header : Header) : header.Alike header :=
  ⟨rfl, .inr rfl⟩

theorem sessionHeaders_alike (baseUrl cookie other : String) :
    List.Forall₂ Header.Alike (sessionHeaders baseUrl cookie) (sessionHeaders baseUrl other) :=
  .cons ⟨rfl, .inl rfl⟩ (.cons (.refl _) (.cons (.refl _) (.cons (.refl _) .nil)))

namespace Exchange

variable (exchange : Exchange)

theorem filter_headers (baseUrl : String) (cookie : Option String) :
    ((exchange.withCookie cookie).headers baseUrl).filter (!·.isSession) =
      (exchange.headers baseUrl).filter (!·.isSession) := by
  have unseen (value : String) : (sessionHeaders baseUrl value).filter (!·.isSession) = [] := rfl
  unfold Exchange.headers Exchange.withCookie
  rw [List.filter_append, List.filter_append]
  cases exchange.cookie with
  | none => cases cookie <;> simp [unseen]
  | some own => cases cookie <;> simp [unseen]

theorem request_alike (config : Config) (other : Option String) (timeout : Timeout) :
    Request.Alike exchange.cookie other (exchange.request config timeout)
      ((exchange.withCookie other).request { config with cookie := other } timeout) where
  method := rfl
  url := rfl
  body := rfl
  timeout := rfl
  headers := exchange.filter_headers config.baseUrl other
  cookies := by
    intro here there
    obtain ⟨value, own⟩ := Option.isSome_iff_exists.1 here
    obtain ⟨another, rfl⟩ := Option.isSome_iff_exists.1 there
    dsimp only [Exchange.request, Exchange.headers, Exchange.withCookie]
    rw [own]
    exact List.rel_append (List.forall₂_same.2 fun header _ => .refl header) (sessionHeaders_alike _ value another)

end Exchange

theorem Transport.filter_received (transport : Transport) (span : Option Span) (answer : Answer) :
    (transport.received span answer).filter Event.isClients = [] := by
  cases answer with
  | error error => rfl
  | ok response =>
    unfold Transport.received
    cases transport.isLogging with
    | true => rfl
    | false => rfl

namespace Channel.Alike

variable {cookie other : Option String} {first second : Channel}

theorem new (transport another : Transport) : Alike cookie other (.new transport) (.new another) :=
  ⟨.nil, rfl, rfl, fun _ => rfl⟩

theorem logs (alike : Alike cookie other first second) (events : List Event) :
    Alike cookie other (first.logs events) (second.logs events) where
  requests := alike.requests
  answers := alike.answers
  events := by simp [Channel.logs, alike.events]
  journal := fun kept => by simp [Channel.logs, alike.journal kept]

theorem transmit (alike : Alike cookie other first second) (span : Option Span) {request changed : Request}
    (requests : Request.Alike cookie other request changed)
    (answered : (second.transmit span changed).1 = (first.transmit span request).1) :
    Alike cookie other (first.transmit span request).2 (second.transmit span changed).2 where
  requests := by
    rw [Channel.requests_transmit, Channel.requests_transmit]
    exact List.rel_append alike.requests (.cons requests .nil)
  answers := by rw [Channel.answers_transmit, Channel.answers_transmit, alike.answers, answered]
  events := by simp [Channel.events_transmit, Transport.filter_received, alike.events]
  journal := by
    intro kept
    rw [Channel.isLogging_transmit, Channel.isLogging_transmit] at kept
    rw [Channel.events_transmit, Channel.events_transmit, alike.journal kept, answered]
    have heard (answer : Answer) : second.transport.received span answer = first.transport.received span answer := by
      unfold Transport.received
      rw [kept]
    rw [heard]

end Channel.Alike

def Call.withCookie {α : Type} (call : Call α) (cookie : Option String) : Call α :=
  { call with exchange := call.exchange.withCookie cookie }

section

variable {α : Type} (config : Config) (other : Option String) (span : Span)

theorem Channel.ask_alike (call : Call α) (own : call.exchange.cookie = config.cookie) (first second : Channel)
    (alike : Channel.Alike config.cookie other first second)
    (agree : (first.ask config span call).2.Agree
      (second.ask { config with cookie := other } span (call.withCookie other)).2) :
    (second.ask { config with cookie := other } span (call.withCookie other)).1 = (first.ask config span call).1 ∧
      Channel.Alike config.cookie other (first.ask config span call).2
        (second.ask { config with cookie := other } span (call.withCookie other)).2 := by
  -- Both channels had equally many answers before, so the new ones have one number.
  have answered : (second.hand { config with cookie := other } span (call.withCookie other)).1 =
      (first.hand config span call).1 := by
    symm
    apply agree first.answers.length
    · rw [Channel.answers_ask, List.getElem?_concat_length]
    · rw [Channel.answers_ask, ← alike.answers, List.getElem?_concat_length]
  have requests := call.exchange.request_alike config other config.timeout
  rw [own] at requests
  have opened := alike.logs (call.exchange.opening span (call.request config))
  rw [Channel.ask_eq, Channel.ask_eq, answered]
  exact ⟨rfl, (opened.transmit (some span) requests answered).logs _⟩

theorem Config.ask_coupled (call : Call α) (own : call.exchange.cookie = config.cookie) :
    Coupled (Channel.Alike config.cookie other) (((World.client config).withSpan span).ask call)
      (((World.client { config with cookie := other }).withSpan span).ask (call.withCookie other)) :=
  .ask (Channel.ask_alike config other span call own)

theorem Config.coupling : Coupling (Channel.Alike config.cookie other) ((World.client config).withSpan span)
    ((World.client { config with cookie := other }).withSpan span) where
  presets := config.ask_coupled other span config.presetsCall rfl
  search := fun query => config.ask_coupled other span (config.searchCall query) rfl
  entries := fun locator => config.ask_coupled other span (config.entriesCall locator) rfl
  download := fun locator item => config.ask_coupled other span ⟨config.downloadExchange locator item, .ok, []⟩ rfl
  record := fun event => .record fun _ _ alike => alike.logs [event]

def Unseen {α : Type} (cookie other : Option String) (first second : α × World) : Prop :=
  first.2.channel.Agree second.2.channel →
    second.1 = first.1 ∧ World.Alike (Channel.Alike cookie other) first.2 second.2

/-- The cookie makes no difference to calls in any order, nor to a session. -/
theorem World.cookie_unseen (transport another : Transport) (terminal : Terminal) (tree : Tree) :
    (∀ endpoints : List Endpoint, Unseen config.cookie other
      (((World.client config).withSpan span).callAll endpoints ⟨.new transport, terminal, tree⟩)
      (((World.client { config with cookie := other }).withSpan span).callAll endpoints
        ⟨.new another, terminal, tree⟩)) ∧
    ∀ options : SearchOptions, Unseen config.cookie other
      (runSession config span options ⟨.new transport, terminal, tree⟩)
      (runSession { config with cookie := other } span options ⟨.new another, terminal, tree⟩) := by
  have alike : World.Alike (Channel.Alike config.cookie other) ⟨.new transport, terminal, tree⟩
      ⟨.new another, terminal, tree⟩ := ⟨rfl, rfl, .new transport another⟩
  have coupling := config.coupling other span
  exact ⟨fun endpoints => (coupling.callAll endpoints).alike _ _ alike,
    fun options => (coupling.session options).alike _ _ alike⟩

end

namespace Sample

def replies : List Answer := [bytes [], found, listing, bytes [3], bytes [4, 5]]

-- Both items of the first result come.
def chosen : World := { world replies with terminal := ⟨true, ["x", "0"], [], []⟩ }

end Sample

theorem World.cookie_unseen_second :
    (runSession Sample.config Sample.span Sample.options Sample.chosen).2.channel.Agree
        (runSession { Sample.config with cookie := some "s" } Sample.span Sample.options Sample.chosen).2.channel ∧
      (runSession { Sample.config with cookie := some "s" } Sample.span Sample.options Sample.chosen).1 =
        (runSession Sample.config Sample.span Sample.options Sample.chosen).1 ∧
      World.Alike (Channel.Alike none (some "s")) (runSession Sample.config Sample.span Sample.options Sample.chosen).2
        (runSession { Sample.config with cookie := some "s" } Sample.span Sample.options Sample.chosen).2 := by
  have agree : (runSession Sample.config Sample.span Sample.options Sample.chosen).2.channel.Agree
      (runSession { Sample.config with cookie := some "s" } Sample.span Sample.options Sample.chosen).2.channel :=
    runSession_agree rfl rfl
  exact ⟨agree, (cookie_unseen Sample.config (some "s") Sample.span _ _ _ _).2 Sample.options agree⟩

end Catalog
