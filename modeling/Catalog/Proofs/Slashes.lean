import Catalog.Proofs.Cookies
import Catalog.Proofs.Endpoints

set_option autoImplicit false

namespace Catalog

def slashes (count : Nat) : String :=
  String.ofList (List.replicate count '/')

structure Trimmed (address base : String) : Prop where
  closed : base.toList.getLast? ≠ some '/'
  whole : ∃ count, address = base ++ slashes count

theorem getLast?_dropSlashes (text : List Char) : (dropSlashes text).getLast? ≠ some '/' := by
  rw [dropSlashes, List.getLast?_reverse]
  intro slash
  have head := List.head?_dropWhile_not (· == '/') text.reverse
  rw [slash] at head
  cases head

theorem exists_dropSlashes_append (text : List Char) :
    ∃ count, text = dropSlashes text ++ List.replicate count '/' := by
  obtain ⟨dropped, whole, slash⟩ := Path.eq_dropWhile_append (· == '/') text
  have same : dropped = List.replicate dropped.length '/' :=
    List.eq_replicate_of_mem fun c member => beq_iff_eq.1 (slash c member)
  refine ⟨dropped.length, ?_⟩
  rw [← same]
  exact whole

namespace Config

variable (address : String) (timeout : Timeout)

theorem toList_baseUrl_new : (Config.new address timeout).baseUrl.toList = dropSlashes address.toList :=
  String.toList_ofList

theorem new_append_slashes (count : Nat) :
    Config.new (address ++ slashes count) timeout = Config.new address timeout := by
  rw [Config.new, String.toList_append, slashes, String.toList_ofList, dropSlashes_append, Config.new]

theorem trimmed_new : Trimmed address (Config.new address timeout).baseUrl where
  closed := by
    rw [toList_baseUrl_new]
    exact getLast?_dropSlashes address.toList
  whole := by
    obtain ⟨count, whole⟩ := exists_dropSlashes_append address.toList
    refine ⟨count, String.toList_injective ?_⟩
    rw [String.toList_append, toList_baseUrl_new, slashes, String.toList_ofList]
    exact whole

theorem new_baseUrl_new (later : Timeout) :
    (Config.new (Config.new address timeout).baseUrl later).baseUrl = (Config.new address timeout).baseUrl := by
  apply String.toList_injective
  rw [toList_baseUrl_new, toList_baseUrl_new, dropSlashes_dropSlashes]

end Config

structure Request.Joined (baseUrl : String) (request : Request) : Prop where
  url : ∃ rest, request.url.toList = baseUrl.toList ++ '/' :: rest ∧ rest.head? ≠ some '/'
  origin : ∀ header ∈ request.headers, header.name = "origin" → header.value = baseUrl

theorem Resource.path_eq (resource : Resource) : ∃ rest, resource.path.toList = '/' :: 's' :: rest := by
  cases resource <;> exact ⟨_, rfl⟩

namespace Endpoint

variable (config : Config) (endpoint : Endpoint)

theorem headers_request : (endpoint.request config).headers = config.headers := by
  cases endpoint <;> rfl

theorem joined_request : (endpoint.request config).Joined config.baseUrl where
  url := by
    obtain ⟨rest, path⟩ := endpoint.resource.path_eq
    rw [url_request, path]
    exact ⟨_, rfl, by simp⟩
  origin := by
    have plain : Request.Plain config (config.presetsCall.request config) := plain_getting config _
    rw [headers_request, Config.headers, plain.headers]
    cases config.cookie with
    | none => simp
    | some cookie => simp

end Endpoint

section

variable {config : Config} {span : Span}

-- Calls and sessions ask for nothing but the paths of endpoints.
theorem Coupling.of_joined : Coupling
    (fun first second => second = first ∧ ∀ request ∈ first.requests, request.Joined config.baseUrl)
    ((World.client config).withSpan span) ((World.client config).withSpan span) := by
  have joined (endpoint : Endpoint) := endpoint.joined_request config
  refine .of_asked (·.Joined config.baseUrl) (joined .presets) (fun query => joined (.search query))
    (fun locator => joined (.entries locator)) (fun locator item => joined (.download locator item)) ?_ ?_
  · intro channel request asked before
    rw [Channel.requests_transmit]
    exact List.forall_mem_append.2 ⟨before, List.forall_mem_singleton.2 asked⟩
  · exact fun channel events before => before

end

structure Channel.Matches (first second : Channel) : Prop where
  requests : second.requests = first.requests
  answers : second.answers = first.answers
  events : second.events.filter Event.isClients = first.events.filter Event.isClients
  journal : second.transport.isLogging = first.transport.isLogging → second.events = first.events

namespace Channel.Matches

variable {first second : Channel}

theorem alike (same : first.Matches second) (cookie : Option String) : Channel.Alike cookie cookie first second where
  requests := by
    rw [same.requests, List.forall₂_same]
    exact fun request _ => ⟨rfl, rfl, rfl, rfl, rfl, fun _ _ => List.forall₂_same.2 fun header _ => .refl header⟩
  answers := same.answers
  events := same.events
  journal := same.journal

theorem new (transport another : Transport) : (Channel.new transport).Matches (.new another) :=
  ⟨rfl, rfl, rfl, fun _ => rfl⟩

theorem logs (same : first.Matches second) (events : List Event) : (first.logs events).Matches (second.logs events) where
  requests := same.requests
  answers := same.answers
  events := by simp [Channel.logs, same.events]
  journal := fun kept => by simp [Channel.logs, same.journal kept]

end Channel.Matches

section

variable (config : Config) (span : Span)

theorem Channel.requests_ask {α : Type} (channel : Channel) (call : Call α) :
    (channel.ask config span call).2.requests = channel.requests ++ [call.request config] := by
  obtain ⟨answer, sent, -⟩ := channel.ask_sent config span call
  exact sent.requests

theorem Channel.ask_matches {α : Type} (call : Call α) (own : call.exchange.cookie = config.cookie)
    (first second : Channel) (same : first.Matches second)
    (agree : (first.ask config span call).2.Agree (second.ask config span call).2) :
    (second.ask config span call).1 = (first.ask config span call).1 ∧
      (first.ask config span call).2.Matches (second.ask config span call).2 := by
  have unchanged : call.withCookie config.cookie = call := by
    rw [← own]
    rfl
  -- Nothing but the requests is left to compare once the cookies are the same.
  have both := Channel.ask_alike config config.cookie span call own first second (same.alike config.cookie)
  rw [unchanged] at both
  obtain ⟨result, alike⟩ := both agree
  refine ⟨result, ?_, alike.answers, alike.events, alike.journal⟩
  rw [requests_ask, requests_ask, same.requests]

theorem Config.ask_matching {α : Type} (call : Call α) (own : call.exchange.cookie = config.cookie) :
    Coupled Channel.Matches (((World.client config).withSpan span).ask call)
      (((World.client config).withSpan span).ask call) :=
  .ask (Channel.ask_matches config span call own)

theorem Config.matching :
    Coupling Channel.Matches ((World.client config).withSpan span) ((World.client config).withSpan span) where
  presets := config.ask_matching span config.presetsCall rfl
  search := fun query => config.ask_matching span (config.searchCall query) rfl
  entries := fun locator => config.ask_matching span (config.entriesCall locator) rfl
  download := fun locator item => config.ask_matching span (config.downloadCall locator ⟨item, ""⟩) rfl
  record := fun event => .record fun _ _ same => same.logs [event]

def World.runCalls (endpoints : List Endpoint) (world : World) : List Reply × World :=
  ((World.client config).withSpan span).callAll endpoints world

end

def Config.reaching (address : String) (timeout : Timeout) (cookie : Option String) (agent : String) : Config :=
  { Config.new address timeout with cookie := cookie, userAgent := agent }

theorem Config.reaching_append_slashes (address : String) (count : Nat) (timeout : Timeout) (cookie : Option String)
    (agent : String) : Config.reaching (address ++ slashes count) timeout cookie agent =
      Config.reaching address timeout cookie agent := by
  rw [reaching, new_append_slashes, reaching]

structure Coincide {α : Type} (baseUrl : String) (first second : α × World) : Prop where
  joined : ∀ request ∈ first.2.channel.requests, request.Joined baseUrl
  same : first.2.channel.Agree second.2.channel →
    second.1 = first.1 ∧ World.Alike Channel.Matches first.2 second.2

structure Config.Indistinct (config other : Config) (span another : Span) (transport further : Transport)
    (terminal : Terminal) (tree : Tree) : Prop where
  calls : ∀ endpoints : List Endpoint, Coincide config.baseUrl
    (World.runCalls config span endpoints ⟨.new transport, terminal, tree⟩)
    (World.runCalls other another endpoints ⟨.new further, terminal, tree⟩)
  session : ∀ options : SearchOptions, Coincide config.baseUrl
    (World.runSession config span options ⟨.new transport, terminal, tree⟩)
    (World.runSession other another options ⟨.new further, terminal, tree⟩)

theorem Config.indistinct_self (config : Config) (span : Span) (transport further : Transport) (terminal : Terminal)
    (tree : Tree) : config.Indistinct config span span transport further terminal tree := by
  have start : World.Alike Channel.Matches ⟨.new transport, terminal, tree⟩ ⟨.new further, terminal, tree⟩ :=
    ⟨rfl, rfl, .new transport further⟩
  have fresh : ∀ request ∈ (Channel.new transport).requests, request.Joined config.baseUrl :=
    fun request member => absurd member List.not_mem_nil
  have joined : Coupling _ ((World.client config).withSpan span) _ := .of_joined
  constructor
  case calls =>
    exact fun endpoints => ⟨(joined.callAll endpoints).keeps fresh,
      ((config.matching span).callAll endpoints).alike _ _ start⟩
  case session =>
    exact fun options => ⟨(joined.session options).keeps fresh, ((config.matching span).session options).alike _ _ start⟩

/-- Slashes at the end of an address are dropped, and with any number of them calls and sessions come to the same. -/
theorem World.slashes_unseen (address : String) (count : Nat) (timeout : Timeout) :
    Trimmed address (Config.new address timeout).baseUrl ∧
    Config.new (address ++ slashes count) timeout = Config.new address timeout ∧
    (∀ later, (Config.new (Config.new address timeout).baseUrl later).baseUrl = (Config.new address timeout).baseUrl) ∧
    ∀ (cookie : Option String) (agent : String) (span : Config → Span) (transport further : Transport)
      (terminal : Terminal) (tree : Tree),
      (Config.reaching address timeout cookie agent).Indistinct
        (Config.reaching (address ++ slashes count) timeout cookie agent)
        (span (Config.reaching address timeout cookie agent))
        (span (Config.reaching (address ++ slashes count) timeout cookie agent)) transport further terminal tree := by
  refine ⟨Config.trimmed_new address timeout, Config.new_append_slashes address timeout count,
    Config.new_baseUrl_new address timeout, ?_⟩
  intro cookie agent span transport further terminal tree
  -- The settings are the same, so only the networks differ.
  rw [Config.reaching_append_slashes]
  exact Config.indistinct_self _ _ transport further terminal tree

namespace Sample

def street : Config := .reaching "http://h" config.timeout (some "s") ""

def avenue : Config := .reaching ("http://h" ++ slashes 2) config.timeout (some "s") ""

end Sample

theorem World.slashes_unseen_second :
    (runSession Sample.street (clientSpan Sample.street) Sample.options Sample.chosen).2.channel.Agree
        (runSession Sample.avenue (clientSpan Sample.avenue) Sample.options Sample.chosen).2.channel ∧
      (runSession Sample.avenue (clientSpan Sample.avenue) Sample.options Sample.chosen).1 =
        (runSession Sample.street (clientSpan Sample.street) Sample.options Sample.chosen).1 ∧
      World.Alike Channel.Matches
        (runSession Sample.street (clientSpan Sample.street) Sample.options Sample.chosen).2
        (runSession Sample.avenue (clientSpan Sample.avenue) Sample.options Sample.chosen).2 := by
  have agree : (runSession Sample.street (clientSpan Sample.street) Sample.options Sample.chosen).2.channel.Agree
      (runSession Sample.avenue (clientSpan Sample.avenue) Sample.options Sample.chosen).2.channel :=
    runSession_agree rfl rfl
  obtain ⟨-, -, -, untold⟩ := slashes_unseen "http://h" 2 Sample.config.timeout
  exact ⟨agree, ((untold (some "s") "" clientSpan _ _ _ _).session Sample.options).same agree⟩

end Catalog
