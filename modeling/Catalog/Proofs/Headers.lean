import Mathlib.Data.List.Forall2
import Mathlib.Data.List.TakeWhile
import Mathlib.Tactic.SplitIfs
import Catalog.Exchange
import Catalog.Http.Wire
import Catalog.Channel

set_option autoImplicit false

namespace Catalog

def IsToken (name : String) : Prop :=
  name ≠ "" ∧ ∀ c ∈ name.toList, isTokenChar c = true

def IsName (name : String) : Prop :=
  name ≠ "" ∧ name.length ≤ 65535 ∧ ∀ c ∈ name.toList, isTokenChar c = true ∨ c = '"'

def HasControl (value : String) : Prop :=
  ∃ b ∈ Utf8.encode value.toList, b < 32 ∧ b ≠ 9 ∨ b = 127

theorem isHeaderName_eq_true_iff (name : String) : isHeaderName name = true ↔ IsName name := by
  simp only [isHeaderName, Bool.and_eq_true, Bool.not_eq_true', decide_eq_true_eq, String.isEmpty_eq_false_iff,
    List.all_eq_true, Bool.or_eq_true, beq_iff_eq, and_assoc]
  rfl

theorem isHeaderValue_eq_true_iff (value : String) : isHeaderValue value = true ↔ ¬ HasControl value := by
  have byte (b : UInt8) : isHeaderByte b = true ↔ ¬ (b < 32 ∧ b ≠ 9 ∨ b = 127) := by
    simp only [isHeaderByte, Bool.or_eq_true, Bool.and_eq_true, beq_iff_eq, decide_eq_true_eq, bne_iff_ne]
    grind
  simp [isHeaderValue, HasControl, byte]

theorem headerFault?_ne_none_iff (headers : List Header) :
    headerFault? headers ≠ none ↔ ∃ header ∈ headers, ¬ IsName header.name ∨ HasControl header.value := by
  rw [Ne, headerFault?_eq_none_iff]
  simp only [isHeaderName_eq_true_iff, isHeaderValue_eq_true_iff, not_forall, exists_prop, not_and_or, not_not]

def letters (count : Nat) : String :=
  String.ofList (List.replicate count 'x')

theorem isToken_letters (count : Nat) : IsToken (letters (count + 1)) := by
  constructor
  · intro empty
    have none := congrArg String.length empty
    rw [letters, String.length_ofList, List.length_replicate] at none
    cases none
  · intro c member
    rw [letters, String.toList_ofList] at member
    rw [List.eq_of_mem_replicate member]
    decide

theorem not_isName_letters {count : Nat} (long : 65535 < count) : ¬ IsName (letters count) := by
  intro named
  have short := named.2.1
  rw [letters, String.length_ofList, List.length_replicate] at short
  omega

namespace Wire

variable {agent : String} {server : Server} {replies : List Reply} {request : Request}

theorem send_refused {fault : HeaderFault} (faulty : headerFault? request.headers = some fault) :
    send agent server replies request = (.error (.config (.header fault)), none, replies) := by
  simp [send, check, faulty]

theorem send_faultless (faultless : headerFault? request.headers = none) (fault : ConfigFault) :
    (send agent server replies request).1 ≠ .error (.config fault) := by
  unfold send check
  rw [faultless]
  cases destination request.url request.timeout with
  | error unreachable => simp [Except.mapError]
  | ok address =>
    cases owned : server.owns address with
    | false => simp [Except.mapError, owned]
    | true =>
      simp only [Except.mapError, owned, if_true]
      cases receive address (replies.headD .close) with
      | error lost => simp
      | ok response => simp

theorem send_config_iff :
    (∃ fault, (send agent server replies request).1 = .error (.config fault)) ↔
      ∃ header ∈ request.headers, ¬ IsName header.name ∨ HasControl header.value := by
  rw [← headerFault?_ne_none_iff]
  constructor
  · rintro ⟨fault, given⟩ faultless
    exact send_faultless faultless fault given
  · intro faulty
    obtain ⟨fault, faulty⟩ := Option.ne_none_iff_exists'.1 faulty
    exact ⟨_, congrArg Prod.fst (send_refused faulty)⟩

theorem send_config {fault : ConfigFault} (given : (send agent server replies request).1 = .error (.config fault)) :
    (send agent server replies request).2 = (none, replies) := by
  cases faulty : headerFault? request.headers with
  | none => exact absurd given (send_faultless faulty fault)
  | some fault => rw [send_refused faulty]

end Wire

structure Header.Carried (header sent : Header) : Prop where
  name : sent.name = header.name.toLower
  value : ∃ front back, header.value.toList = front ++ sent.value.toList ++ back ∧
    ∀ c ∈ front ++ back, isPadding c = true
  clean : ∀ c ∈ header.value.toList, c ≠ Char.ofNat 13 ∧ c ≠ Char.ofNat 10 ∧ c ≠ Char.ofNat 0

theorem trimValue_padded (value : String) :
    ∃ front back, value.toList = front ++ (trimValue value).toList ++ back ∧
      ∀ c ∈ front ++ back, isPadding c = true := by
  have ends (text : List Char) :
      text = (text.reverse.dropWhile isPadding).reverse ++ (text.reverse.takeWhile isPadding).reverse := by
    calc text = (text.reverse.takeWhile isPadding ++ text.reverse.dropWhile isPadding).reverse := by
          rw [List.takeWhile_append_dropWhile, List.reverse_reverse]
      _ = _ := List.reverse_append
  refine ⟨value.toList.takeWhile isPadding,
    ((value.toList.dropWhile isPadding).reverse.takeWhile isPadding).reverse, ?_, ?_⟩
  · calc value.toList = value.toList.takeWhile isPadding ++ value.toList.dropWhile isPadding :=
          List.takeWhile_append_dropWhile.symm
      _ = _ := by rw [trimValue, String.toList_ofList, List.append_assoc, ← ends]
  · intro c member
    rcases List.mem_append.1 member with early | late
    · exact List.mem_takeWhile_imp early
    · exact List.mem_takeWhile_imp (List.mem_reverse.1 late)

theorem not_hasControl_mem {value : String} (plain : ¬ HasControl value) {c : Char} (member : c ∈ value.toList) :
    c ≠ Char.ofNat 13 ∧ c ≠ Char.ofNat 10 ∧ c ≠ Char.ofNat 0 := by
  have kept (b : UInt8) (held : b ∈ String.utf8EncodeChar c) : ¬ (b < 32 ∧ b ≠ 9 ∨ b = 127) :=
    fun control => plain ⟨b, List.mem_flatMap.2 ⟨c, member, held⟩, control⟩
  refine ⟨?_, ?_, ?_⟩
  · rintro rfl
    exact kept 13 (by decide) (by decide)
  · rintro rfl
    exact kept 10 (by decide) (by decide)
  · rintro rfl
    exact kept 0 (by decide) (by decide)

namespace Wire

variable {agent : String} {server : Server} {replies : List Reply} {request : Request}

def senderNames : List String := ["authorization", "accept", "user-agent", "content-length"]

def Extends (headers more : List Header) : Prop :=
  ∃ added, more = headers ++ added ∧ ∀ header ∈ added, header.name ∈ senderNames

theorem Extends.append {headers more : List Header} (given : Extends headers more) {header : Header}
    (own : header.name ∈ senderNames) : Extends headers (more ++ [header]) := by
  obtain ⟨added, rfl, named⟩ := given
  exact ⟨added ++ [header], List.append_assoc .., List.forall_mem_append.2 ⟨named, List.forall_mem_singleton.2 own⟩⟩

theorem Extends.withDefault {headers more : List Header} (given : Extends headers more) {header : Header}
    (own : header.name ∈ senderNames) : Extends headers (withDefault more header) := by
  unfold Wire.withDefault
  split
  · exact given
  · exact given.append own

theorem Extends.without {headers more : List Header} (given : Extends headers more) {name : String}
    (free : ∀ header ∈ headers, header.name ≠ name) : Extends headers (without more name) := by
  obtain ⟨added, rfl, named⟩ := given
  have kept : Wire.without headers name = headers := List.filter_eq_self.2 fun header member => by
    simpa using free header member
  refine ⟨Wire.without added name, ?_, fun header member => named header (List.mem_filter.1 member).1⟩
  rw [Wire.without, List.filter_append]
  exact congrArg (· ++ _) kept

theorem Extends.bodyHeaders {headers more : List Header} (given : Extends headers more) (body : List UInt8)
    (unsized : ∀ header ∈ headers, header.name ≠ contentLength)
    (whole : ∀ header ∈ headers, header.name ≠ transferEncoding) : Extends headers (bodyHeaders more body) := by
  have unnamed : isNamed more transferEncoding = false := by
    obtain ⟨added, rfl, named⟩ := given
    simp only [isNamed, List.any_eq_false, List.mem_append, beq_iff_eq]
    rintro header (earlier | later) same
    · exact whole header earlier same
    · exact absurd (same ▸ named header later) (by decide)
  rw [Wire.bodyHeaders, unnamed, Bool.not_false, Bool.or_true, if_pos rfl]
  exact ((given.without unsized).without whole).append (by simp [senderNames, contentLength])

def carried (header : Header) : Header :=
  ⟨header.name.toLower, trimValue header.value⟩

theorem name_credentials {address : Url.Address} {header : Header} (given : credentials? address = some header) :
    header.name = "authorization" := by
  unfold credentials? at given
  cases user : decoded? address.user with
  | none => simp [user] at given
  | some user =>
    simp only [user, Option.bind_eq_bind, Option.bind_some] at given
    split_ifs at given
    rw [← Option.some.inj given]

theorem message_headers (agent : String) (request : Request) (address : Url.Address)
    (unsized : ∀ header ∈ request.headers.map carried, header.name ≠ contentLength)
    (whole : ∀ header ∈ request.headers.map carried, header.name ≠ transferEncoding) :
    Extends (request.headers.map carried) (message agent request address).headers := by
  have plain : Extends (request.headers.map carried) (request.headers.map carried) := ⟨[], by simp, by simp⟩
  have named (known : List Header) (given : Extends (request.headers.map carried) known) :
      Extends (request.headers.map carried)
        (withDefault (withDefault known ⟨"accept", "*/*"⟩) ⟨"user-agent", trimValue agent⟩) := by
    have accepted : Extends _ (withDefault known ⟨"accept", "*/*"⟩) := given.withDefault (by simp [senderNames])
    exact accepted.withDefault (by simp [senderNames])
  unfold message
  cases credentials : credentials? address with
  | none =>
    cases request.body with
    | none => exact (named _ plain).without whole
    | some body => exact (named _ plain).bodyHeaders body unsized whole
  | some header =>
    have own : header.name ∈ senderNames := by simp [senderNames, name_credentials credentials]
    cases request.body with
    | none => exact (named _ (plain.withDefault own)).without whole
    | some body => exact (named _ (plain.withDefault own)).bodyHeaders body unsized whole

theorem send_message {message : Message} (sent : (send agent server replies request).2.1 = some message) :
    headerFault? request.headers = none ∧ ∃ address, message = Wire.message agent request address := by
  cases faulty : headerFault? request.headers with
  | some fault =>
    rw [send_refused faulty] at sent
    cases sent
  | none =>
    refine ⟨rfl, ?_⟩
    unfold send at sent
    split at sent
    · cases sent
    · next address checked =>
      split_ifs at sent with owned
      exact ⟨address, (Option.some.inj sent).symm⟩

end Wire

namespace Exchange

variable (exchange : Exchange) (config : Config) (timeout : Timeout)

def headerNames : List String := ["Content-Type", "cookie", "origin", "accept", "cache-control"]

theorem name_headers : ∀ header ∈ (exchange.request config timeout).headers, header.name ∈ headerNames := by
  intro header member
  rcases List.mem_append.1 member with own | session
  · split_ifs at own
    · rw [List.mem_singleton.1 own]
      simp [headerNames]
    · cases own
  · cases given : exchange.cookie with
    | none => simp [given] at session
    | some cookie =>
      simp only [given, sessionHeaders, List.mem_cons, List.not_mem_nil, or_false] at session
      rcases session with rfl | rfl | rfl | rfl <;> simp [headerNames]

theorem name_carried (name : String) (other : ∀ own ∈ headerNames, own.toLower ≠ name) :
    ∀ header ∈ (exchange.request config timeout).headers.map Wire.carried, header.name ≠ name := by
  intro header member
  obtain ⟨given, held, rfl⟩ := List.mem_map.1 member
  exact other given.name (exchange.name_headers config timeout given held)

end Exchange

section

variable {agent : String} {server : Wire.Server} {replies : List Wire.Reply}

theorem Exchange.headers_sent {exchange : Exchange} {config : Config} {timeout : Timeout} {message : Wire.Message}
    (sent : (Wire.send agent server replies (exchange.request config timeout)).2.1 = some message) :
    ∃ arrived added, message.headers = arrived ++ added ∧
      List.Forall₂ Header.Carried (exchange.request config timeout).headers arrived ∧
      ∀ header ∈ added, header.name ∈ Wire.senderNames := by
  obtain ⟨faultless, address, rfl⟩ := Wire.send_message sent
  obtain ⟨added, headers, named⟩ := Wire.message_headers agent (exchange.request config timeout) address
    (exchange.name_carried config timeout _ (by decide +kernel))
    (exchange.name_carried config timeout _ (by decide +kernel))
  refine ⟨_, added, headers, ?_, named⟩
  rw [List.forall₂_map_right_iff, List.forall₂_same]
  intro header member
  have sendable := (headerFault?_eq_none_iff _).1 faultless header member
  exact ⟨rfl, trimValue_padded header.value,
    fun c held => not_hasControl_mem ((isHeaderValue_eq_true_iff _).1 sendable.2) held⟩

end

end Catalog
