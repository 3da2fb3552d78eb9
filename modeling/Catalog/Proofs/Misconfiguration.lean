import Catalog.Proofs.Coupling
import Catalog.Proofs.Endings
import Catalog.Proofs.Headers
import Catalog.Proofs.Journal

set_option autoImplicit false

namespace Catalog

structure Channel.Guarded (agent : String) (server : Wire.Server) (headers : List Header) (channel : Channel) :
    Prop where
  wire : ∃ replies, channel.transport = .wire agent server replies
  unsent : headerFault? headers ≠ none → channel.messages = []
  refused : headerFault? headers ≠ none → ∀ answer ∈ channel.answers, ∃ fault, answer = .error (.config fault)
  unrefused : headerFault? headers = none → ∀ fault, .error (.config fault) ∉ channel.answers

section

variable {agent : String} {server : Wire.Server} {headers : List Header} {channel : Channel}

theorem Channel.Guarded.logs (guarded : channel.Guarded agent server headers) (events : List Event) :
    (channel.logs events).Guarded agent server headers :=
  ⟨guarded.wire, guarded.unsent, guarded.refused, guarded.unrefused⟩

theorem Channel.Guarded.transmit (guarded : channel.Guarded agent server headers) (span : Option Span)
    {request : Request} (same : request.headers = headers) :
    (channel.transmit span request).2.Guarded agent server headers := by
  obtain ⟨replies, wire⟩ := guarded.wire
  obtain ⟨answered, after, messages⟩ := channel.transmit_wire span request wire
  constructor
  case wire => exact ⟨_, after⟩
  case unsent =>
    intro faulty
    obtain ⟨fault, found⟩ := Option.ne_none_iff_exists'.1 faulty
    rw [messages, Wire.send_refused (same ▸ found), guarded.unsent faulty]
    rfl
  case refused =>
    intro faulty
    obtain ⟨fault, found⟩ := Option.ne_none_iff_exists'.1 faulty
    rw [Channel.answers_transmit, answered, Wire.send_refused (same ▸ found)]
    exact List.forall_mem_append.2 ⟨guarded.refused faulty, List.forall_mem_singleton.2 ⟨_, rfl⟩⟩
  case unrefused =>
    intro faultless fault
    rw [Channel.answers_transmit, answered, List.mem_append, List.mem_singleton]
    rintro (earlier | last)
    · exact guarded.unrefused faultless fault earlier
    · exact Wire.send_faultless (same ▸ faultless) fault last.symm

end

section

variable {config : Config} {options : SearchOptions}

theorem World.runSession_guarded {agent : String} {server : Wire.Server} {replies : List Wire.Reply} (span : Span)
    {start : World} (fresh : start.channel = .new (.wire agent server replies)) :
    (runSession config span options start).2.channel.Guarded agent server config.headers := by
  refine runSession_keeps (fun channel request same guarded => guarded.transmit (some span) same)
    (fun channel events guarded => guarded.logs events) ?_
  rw [fresh]
  exact ⟨⟨replies, rfl⟩, fun _ => rfl, fun _ => by simp [Channel.new], fun _ _ => by simp [Channel.new]⟩

end

def Misconfigured (result : Except Failure Unit × World) : Prop :=
  (∃ fault, .error (.config fault) ∈ result.2.channel.answers) ∨
    ∃ stage fault, result.1 = .error (.exchange stage (.config fault))

/-- Headers are looked at before anything is sent. Those that cannot be sent are refused, the others arrive as they
were given; and a session with a call that is refused has sent nothing. -/
theorem World.headers_checked (agent : String) (server : Wire.Server) (replies : List Wire.Reply) :
    (∀ request : Request,
      ((∃ fault, (Wire.send agent server replies request).1 = .error (.config fault)) ↔
        ∃ header ∈ request.headers, ¬ IsName header.name ∨ HasControl header.value) ∧
      ∀ fault, (Wire.send agent server replies request).1 = .error (.config fault) →
        (Wire.send agent server replies request).2 = (none, replies)) ∧
    (∀ (exchange : Exchange) (config : Config) (timeout : Timeout) (message : Wire.Message),
      (Wire.send agent server replies (exchange.request config timeout)).2.1 = some message →
        ∃ arrived added, message.headers = arrived ++ added ∧
          List.Forall₂ Header.Carried (exchange.request config timeout).headers arrived ∧
          ∀ header ∈ added, header.name ∈ Wire.senderNames) ∧
    ∀ (config : Config) (span : Span) (options : SearchOptions) (terminal : Terminal) (tree : Tree),
      Misconfigured (runSession config span options ⟨.new (.wire agent server replies), terminal, tree⟩) →
        (runSession config span options ⟨.new (.wire agent server replies), terminal, tree⟩).2.channel.messages =
          [] := by
  refine ⟨fun request => ⟨Wire.send_config_iff, fun fault => Wire.send_config⟩,
    fun exchange config timeout message => Exchange.headers_sent, ?_⟩
  intro config span options terminal tree misconfigured
  generalize begun : World.mk (.new (.wire agent server replies)) terminal tree = start at misconfigured ⊢
  have fresh : start.channel = .new (.wire agent server replies) := by rw [← begun]
  have guarded : (runSession config span options start).2.channel.Guarded agent server config.headers :=
    runSession_guarded span fresh
  have refused : ∃ fault, .error (.config fault) ∈ (runSession config span options start).2.channel.answers := by
    rcases misconfigured with refused | ⟨stage, fault, failed⟩
    · exact refused
    · exact ⟨fault, (runSession_ending config span options start).answered failed rfl⟩
  obtain ⟨fault, member⟩ := refused
  exact guarded.unsent fun faultless => guarded.unrefused faultless fault member

namespace Sample

def server : Wire.Server := ⟨"[::1]", 80⟩

def wired : World := ⟨.new (.wire "" server [bare, bare, bare]), ⟨true, [], [], []⟩, ⟨[], []⟩⟩
where
  bare : Wire.Reply := .answer 200 "OK" [] 0

def signed (cookie : String) : Config := { config with baseUrl := "http://[::1]", cookie := some cookie }

def sent : Request := (signed "s").presetsCall.request (signed "s")

-- The value would end its line and start another.
def injected : Config := signed "a\r\nb: c"

def unsent : Request := injected.presetsCall.request injected

end Sample

theorem World.headers_checked_names :
    (¬ IsToken "x\"" ∧ ∀ fault,
      (Wire.send "" Sample.server [] ⟨.get, "http://[::1]", [⟨"x\"", "v"⟩], none, ⟨1, 0⟩⟩).1 ≠ .error (.config fault)) ∧
    IsToken (letters 65536) ∧ ¬ HasControl "v" ∧ ∃ fault,
      (Wire.send "" Sample.server [] ⟨.get, "http://[::1]", [⟨letters 65536, "v"⟩], none, ⟨1, 0⟩⟩).1 =
        .error (.config fault) := by
  refine ⟨⟨?_, ?_⟩, isToken_letters 65535, ?_, ?_⟩
  · intro token
    exact absurd (token.2 '"' (by decide)) (by decide)
  · exact Wire.send_faultless (by decide +kernel)
  · unfold HasControl
    decide
  · exact Wire.send_config_iff.2 ⟨_, List.mem_singleton.2 rfl, .inl (not_isName_letters (by decide))⟩

theorem World.headers_checked_second :
    (∃ fault, (Wire.send "" Sample.server [] Sample.unsent).1 = .error (.config fault) ∧
      (Wire.send "" Sample.server [] Sample.unsent).2 = (none, [])) ∧
    (∃ message, (Wire.send "" Sample.server [] Sample.sent).2.1 = some message ∧
      ∃ arrived added, message.headers = arrived ++ added ∧
        List.Forall₂ Header.Carried (sessionHeaders "http://[::1]" "s") arrived ∧
        ∀ header ∈ added, header.name ∈ Wire.senderNames) ∧
    Misconfigured (runSession Sample.injected Sample.span Sample.options Sample.wired) ∧
      (runSession Sample.injected Sample.span Sample.options Sample.wired).2.channel.messages = [] := by
  have faulty : headerFault? Sample.unsent.headers = some (.value "cookie") := by decide +kernel
  have refused : (Wire.send "" Sample.server [] Sample.unsent).1 = .error (.config (.header (.value "cookie"))) :=
    congrArg Prod.fst (Wire.send_refused faulty)
  have sent : (Wire.send "" Sample.server [] Sample.sent).2.1.isSome = true := by decide +kernel
  obtain ⟨message, sent⟩ := Option.isSome_iff_exists.1 sent
  have asked : 0 < (runSession Sample.injected Sample.span Sample.options Sample.wired).2.channel.answers.length := by
    decide +kernel
  have misconfigured : Misconfigured (runSession Sample.injected Sample.span Sample.options Sample.wired) := by
    obtain ⟨answer, member⟩ := List.exists_mem_of_length_pos asked
    have unsendable : headerFault? Sample.injected.headers ≠ none := Option.ne_none_iff_exists'.2 ⟨_, faulty⟩
    obtain ⟨fault, rfl⟩ := (runSession_guarded Sample.span rfl).refused unsendable answer member
    exact .inl ⟨fault, member⟩
  have checked := headers_checked "" Sample.server
  exact ⟨⟨_, refused, ((checked []).1 _).2 _ refused⟩, ⟨message, sent, (checked []).2.1 _ _ _ _ sent⟩, misconfigured,
    (checked _).2.2 _ _ _ _ _ misconfigured⟩

end Catalog
