import Catalog.Proofs.Exchanges
import Catalog.Proofs.Text.Characters

set_option autoImplicit false

namespace Catalog

structure Mirrors {α : Type} (payload : α → Payload) (typed : Except Error (Option α))
    (generic : Except Error (Option Payload)) : Prop where
  given : ∀ p, generic = .ok (some p) ↔ ∃ x, typed = .ok (some x) ∧ payload x = p
  empty : generic = .ok none ↔ typed = .ok none
  failed : ∀ error, generic = .error error ↔ typed = .error error

theorem mirrors_map {α : Type} (payload : α → Payload) (typed : Except Error (Option α)) :
    Mirrors payload typed (typed.map (Option.map payload)) := by
  constructor
  case given =>
    intro p
    rcases typed with _ | _ | x <;> simp [Except.map]
  case empty => rcases typed with _ | _ | x <;> simp [Except.map]
  case failed =>
    intro error
    rcases typed with _ | _ | x <;> simp [Except.map]

theorem readBody_map {α β : Type} (read : List UInt8 → Except Error α) (change : α → β)
    (result : Except Error (Option (List UInt8))) :
    readBody (fun body => (read body).map change) result = (readBody read result).map (Option.map change) := by
  rcases result with _ | _ | body
  · rfl
  · rfl
  · cases given : read body <;> simp [readBody, Except.map, given]

structure Shows (body : List UInt8) (generic : Except Error (Option Payload))
    (binary : Except Error (Option (List UInt8))) (text : Except Error (Option String)) : Prop where
  bytes : binary = .ok (some body)
  wellFormed : ∀ s : String, text = .ok (some s) ↔ Utf8.encode s.toList = body
  illFormed : (∃ failure, text = .error (.utf8 failure)) ↔ ∀ s : String, Utf8.encode s.toList ≠ body
  binaryPayload : ∀ bytes, generic = .ok (some (.binary bytes)) → bytes = body
  textPayload : ∀ s : String, generic = .ok (some (.text s)) → Utf8.encode s.toList = body

structure Siblings (exchange : Exchange) (request : Request) (before : Channel)
    (generic : Except Error (Option Payload) × Channel) (json : Except Error (Option Json.Value) × Channel)
    (binary : Except Error (Option (List UInt8)) × Channel) (text : Except Error (Option String) × Channel) :
    Prop where
  ofJson : exchange.contentType = "application/json" → Mirrors .json json.1 generic.1
  ofBinary : exchange.contentType = "application/octet-stream" → Mirrors .binary binary.1 generic.1
  ofText : exchange.contentType ≠ "application/json" → exchange.contentType ≠ "application/octet-stream" →
    Mirrors .text text.1 generic.1
  same : json.2 = generic.2 ∧ binary.2 = generic.2 ∧ text.2 = generic.2
  sent : ∃ answer, before.Sent [(request, answer)] generic.2 ∧
    ∀ response, answer = .ok response → response.isSuccess = true → response.body ≠ [] →
      Shows response.body generic.1 binary.1 text.1

section

variable {body : List UInt8}

theorem readText_eq_ok_iff (s : String) : readText body = .ok s ↔ Utf8.encode s.toList = body := by
  rw [← Utf8.decode_eq_ok_iff, readText]
  cases read : Utf8.decode body with
  | error failure => simp
  | ok chars =>
    simp only [Except.ok.injEq]
    constructor
    · rintro rfl
      exact String.toList_ofList.symm
    · rintro rfl
      exact String.ofList_toList

theorem readText_ne_ok (illFormed : ∀ s : String, Utf8.encode s.toList ≠ body) :
    ∃ failure, readText body = .error (.utf8 failure) := by
  cases read : Utf8.decode body with
  | error failure => exact ⟨failure, by rw [readText, read]⟩
  | ok chars =>
    refine absurd ((readText_eq_ok_iff (String.ofList chars)).1 ?_) (illFormed _)
    rw [readText, read]

theorem readPayload_json (body : List UInt8) :
    readPayload jsonType body = (readJson (Json.value Json.depthLimit) body).map .json :=
  if_pos rfl

theorem readPayload_binary (body : List UInt8) : readPayload binaryType body = .ok (.binary body) := by
  rw [readPayload, if_neg (by decide), if_pos rfl]

theorem readPayload_other {contentType : String} (notJson : contentType ≠ jsonType)
    (notBinary : contentType ≠ binaryType) (body : List UInt8) : readPayload contentType body = (readText body).map .text := by
  rw [readPayload, if_neg notJson, if_neg notBinary]

theorem mirrors_of_read {α : Type} {payload : α → Payload} {read : List UInt8 → Except Error α} {contentType : String}
    (reads : ∀ body, readPayload contentType body = (read body).map payload)
    (result : Except Error (Option (List UInt8))) :
    Mirrors payload (readBody read result) (readBody (readPayload contentType) result) := by
  rw [funext reads, readBody_map]
  exact mirrors_map payload _

theorem readPayload_cases {contentType : String} {body : List UInt8} {payload : Payload}
    (read : readPayload contentType body = .ok payload) :
    (∃ value, payload = .json value) ∨ payload = .binary body ∨
      ∃ s : String, payload = .text s ∧ Utf8.encode s.toList = body := by
  by_cases json : contentType = jsonType
  · rw [json, readPayload_json] at read
    cases given : readJson (Json.value Json.depthLimit) body with
    | error error => simp [given, Except.map] at read
    | ok value => exact .inl ⟨value, by simpa [given, Except.map] using read.symm⟩
  by_cases binary : contentType = binaryType
  · rw [binary, readPayload_binary] at read
    exact .inr (.inl (Except.ok.inj read).symm)
  rw [readPayload_other json binary] at read
  cases given : readText body with
  | error error => simp [given, Except.map] at read
  | ok s =>
    refine .inr (.inr ⟨s, by simpa [given, Except.map] using read.symm, ?_⟩)
    exact (readText_eq_ok_iff s).1 given

theorem readBody_eq_ok_iff {α : Type} (read : List UInt8 → Except Error α) (body : List UInt8) (x : α) :
    readBody read (.ok (some body)) = .ok (some x) ↔ read body = .ok x := by
  cases given : read body <;> simp [readBody, given, Except.map]

theorem readBody_eq_error_iff {α : Type} (read : List UInt8 → Except Error α) (body : List UInt8) (error : Error) :
    readBody read (.ok (some body)) = .error error ↔ read body = .error error := by
  cases given : read body <;> simp [readBody, given, Except.map]

theorem shows_body (contentType : String) (body : List UInt8) :
    Shows body (readBody (readPayload contentType) (.ok (some body))) (readBody .ok (.ok (some body)))
      (readBody readText (.ok (some body))) := by
  constructor
  case bytes => rfl
  case wellFormed => exact fun s => (readBody_eq_ok_iff readText body s).trans (readText_eq_ok_iff s)
  case illFormed =>
    simp only [readBody_eq_error_iff]
    constructor
    · rintro ⟨failure, failed⟩ s same
      rw [← readText_eq_ok_iff, failed] at same
      cases same
    · exact readText_ne_ok
  case binaryPayload =>
    intro bytes given
    rcases readPayload_cases ((readBody_eq_ok_iff _ body _).1 given) with ⟨value, same⟩ | same | ⟨s, same, -⟩
    · cases same
    · exact Payload.binary.inj same
    · cases same
  case textPayload =>
    intro s given
    rcases readPayload_cases ((readBody_eq_ok_iff _ body _).1 given) with ⟨value, same⟩ | same | ⟨t, same, encoded⟩
    · cases same
    · cases same
    · rwa [Payload.text.inj same]

end

section

variable (config : Config) (span : Span) (exchange : Exchange) (timeout : Timeout) (channel : Channel)

theorem Channel.sent_send :
    ∃ answer, channel.Sent [(exchange.request config timeout, answer)]
        (((Client.over config).withSpan span).send exchange timeout channel).2 ∧
      (((Client.over config).withSpan span).send exchange timeout channel).1 = answer.bind Response.outcome := by
  rw [send_eq]
  exact ⟨_, (channel.sent_opened span _ _).trans (Channel.sent_logs _ _), rfl⟩

/-- Whatever the transport answers, the generic call of an exchange says what the typed call of its content type says,
and each of the four hands over the same request and leaves the same behind. -/
theorem Channel.exchange_mirrors :
    Siblings exchange (exchange.request config timeout) channel
      (((Client.over config).withSpan span).exchange exchange timeout channel)
      (((Client.over config).withSpan span).exchangeJson (Json.value Json.depthLimit) exchange timeout channel)
      (((Client.over config).withSpan span).exchangeBinary exchange timeout channel)
      (((Client.over config).withSpan span).exchangeText exchange timeout channel) := by
  have calls {α : Type} (read : List UInt8 → Except Error α) :
      ((Client.over config).withSpan span).exchangeWith read exchange timeout channel =
        (readBody read (((Client.over config).withSpan span).send exchange timeout channel).1,
          (((Client.over config).withSpan span).send exchange timeout channel).2) :=
    rfl
  obtain ⟨answer, sent, result⟩ := channel.sent_send config span exchange timeout
  simp only [Client.exchange, Client.exchangeJson, Client.exchangeBinary, Client.exchangeText, calls]
  generalize ((Client.over config).withSpan span).send exchange timeout channel = shared at sent result
  constructor
  case ofJson =>
    intro json
    exact mirrors_of_read (json ▸ readPayload_json) shared.1
  case ofBinary =>
    intro binary
    exact mirrors_of_read (binary ▸ readPayload_binary) shared.1
  case ofText => exact fun notJson notBinary => mirrors_of_read (readPayload_other notJson notBinary) shared.1
  case same => exact ⟨rfl, rfl, rfl⟩
  case sent =>
    refine ⟨answer, sent, ?_⟩
    rintro response rfl success filled
    have outcome : shared.1 = .ok (some response.body) := by
      rw [result]
      change response.outcome = _
      simp [Response.outcome, success, filled]
    rw [outcome]
    exact shows_body exchange.contentType response.body

end

end Catalog
