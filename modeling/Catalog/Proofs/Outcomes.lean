import Catalog.Proofs.Payloads

set_option autoImplicit false

namespace Catalog

namespace Utf8

theorem lossy_encode (text : List Char) : lossy (encode text) = text := by
  rw [lossy, pieces, piecesAfter_encode, List.reverse_nil, List.nil_append, List.map_map]
  exact List.map_id text

end Utf8

def Response.Succeeds (response : Response) : Prop :=
  200 ≤ response.status.toNat ∧ response.status.toNat ≤ 299

theorem Response.isSuccess_iff (response : Response) : response.isSuccess = true ↔ response.Succeeds := by
  rw [Response.isSuccess, Catalog.isSuccess, Bool.and_eq_true, decide_eq_true_eq, decide_eq_true_eq,
    UInt16.le_iff_toNat_le, UInt16.lt_iff_toNat_lt, Succeeds]
  exact and_congr_right fun _ => Nat.lt_succ_iff

theorem Response.isSuccess_eq_false_iff (response : Response) : response.isSuccess = false ↔ ¬ response.Succeeds := by
  rw [← isSuccess_iff, Bool.not_eq_true]

structure Tells (body : List UInt8) (text? : Option String) : Prop where
  absent : text? = none ↔ body = []
  lossy : ∀ text, text? = some text → text.toList = Utf8.lossy body
  faithful : ∀ text : String, body ≠ [] → Utf8.encode text.toList = body → text? = some text

inductive Concluded {α : Type} (read : List UInt8 → Except Error α) : Answer → Except Error (Option α) → Prop where
  | unanswered (error : Error) : Concluded read (.error error) (.error error)
  | refused (response : Response) (text? : Option String) (fails : ¬ response.Succeeds)
    (tells : Tells response.body text?) :
    Concluded read (.ok response) (.error (.http response.status response.reason text?))
  | empty (response : Response) (succeeds : response.Succeeds) (bare : response.body = []) :
    Concluded read (.ok response) (.ok none)
  | decoded (response : Response) (x : α) (succeeds : response.Succeeds) (filled : response.body ≠ [])
    (given : read response.body = .ok x) : Concluded read (.ok response) (.ok (some x))
  | undecoded (response : Response) (error : Error) (succeeds : response.Succeeds) (filled : response.body ≠ [])
    (failed : read response.body = .error error)
    (ofBody : (∃ failure, error = .json failure) ∨ ∃ failure, error = .utf8 failure) :
    Concluded read (.ok response) (.error error)

structure Exchanged {α : Type} (read : List UInt8 → Except Error α) (request : Request) (before : Channel)
    (answer : Answer) (run : Except Error (Option α) × Channel) : Prop where
  sent : before.Sent [(request, answer)] run.2
  concluded : Concluded read answer run.1
  notOfBody : ∀ response, answer = .ok response → ¬ response.Succeeds →
    (∀ failure, run.1 ≠ .error (.json failure)) ∧ ∀ failure, run.1 ≠ .error (.utf8 failure)
  notOfStatus : ∀ response, answer = .ok response → response.Succeeds →
    ∀ status reason text?, run.1 ≠ .error (.http status reason text?)

section

variable {α : Type} {read : List UInt8 → Except Error α}

theorem tells_errorText? (response : Response) : Tells response.body response.errorText? := by
  unfold Response.errorText?
  by_cases bare : response.body = []
  · rw [bare]
    exact ⟨by simp, by simp, by simp⟩
  · rw [if_neg (by simpa using bare)]
    refine ⟨by simpa using bare, ?_, ?_⟩
    · intro text told
      rw [← Option.some.inj told, String.toList_ofList]
    · intro text _ encoded
      rw [← encoded, Utf8.lossy_encode, String.ofList_toList]

def Decodes (read : List UInt8 → Except Error α) : Prop :=
  ∀ body error, read body = .error error → (∃ failure, error = .json failure) ∨ ∃ failure, error = .utf8 failure

theorem decodes_json (read : Json.Reader α) : Decodes (readJson read) :=
  fun _ _ failed => .inl (exists_failure_of_readJson failed)

theorem decodes_bytes : Decodes (.ok : List UInt8 → Except Error (List UInt8)) := by
  intro body error failed
  cases failed

theorem decodes_text : Decodes readText := by
  intro body error failed
  unfold readText at failed
  cases decoded : Utf8.decode body with
  | ok text => simp [decoded] at failed
  | error failure =>
    rw [decoded] at failed
    exact .inr ⟨failure, (Except.error.inj failed).symm⟩

theorem Decodes.map {β : Type} (decodes : Decodes read) (change : α → β) :
    Decodes fun body => (read body).map change := by
  intro body error failed
  cases given : read body with
  | ok x => simp [given, Except.map] at failed
  | error found =>
    obtain rfl : found = error := by simpa [given, Except.map] using failed
    exact decodes body found given

theorem decodes_payload (contentType : String) : Decodes (readPayload contentType) := by
  by_cases json : contentType = jsonType
  · rw [json, funext readPayload_json]
    exact (decodes_json _).map Payload.json
  by_cases binary : contentType = binaryType
  · rw [binary, funext readPayload_binary]
    exact decodes_bytes.map Payload.binary
  · rw [funext (readPayload_other json binary)]
    exact decodes_text.map Payload.text

theorem concluded_outcome (decodes : Decodes read) (response : Response) :
    Concluded read (.ok response) (readBody read response.outcome) := by
  cases accepted : response.isSuccess with
  | false =>
    have fails := response.isSuccess_eq_false_iff.1 accepted
    have outcome : response.outcome = .error (.http response.status response.reason response.errorText?) := by
      simp [Response.outcome, accepted]
    rw [outcome]
    exact .refused response _ fails (tells_errorText? response)
  | true =>
    have succeeds := response.isSuccess_iff.1 accepted
    by_cases bare : response.body = []
    · have outcome : response.outcome = .ok none := by simp [Response.outcome, accepted, bare]
      rw [outcome]
      exact .empty response succeeds bare
    · have outcome : response.outcome = .ok (some response.body) := by simp [Response.outcome, accepted, bare]
      rw [outcome]
      cases given : read response.body with
      | ok x => simpa [readBody, given, Except.map] using Concluded.decoded response x succeeds bare given
      | error error =>
        have ofBody := decodes _ error given
        simpa [readBody, given, Except.map] using Concluded.undecoded response error succeeds bare given ofBody

theorem Concluded.not_ofBody {response : Response} {result : Except Error (Option α)}
    (concluded : Concluded read (.ok response) result) (fails : ¬ response.Succeeds) :
    (∀ failure, result ≠ .error (.json failure)) ∧ ∀ failure, result ≠ .error (.utf8 failure) := by
  cases concluded with
  | refused => simp
  | empty _ succeeds => exact absurd succeeds fails
  | decoded _ _ succeeds => exact absurd succeeds fails
  | undecoded _ _ succeeds => exact absurd succeeds fails

theorem Concluded.not_ofStatus {response : Response} {result : Except Error (Option α)}
    (concluded : Concluded read (.ok response) result) (succeeds : response.Succeeds) :
    ∀ status reason text?, result ≠ .error (.http status reason text?) := by
  cases concluded with
  | refused _ _ fails => exact absurd succeeds fails
  | empty => simp
  | decoded => simp
  | undecoded _ error _ _ _ ofBody => rcases ofBody with ⟨failure, rfl⟩ | ⟨failure, rfl⟩ <;> simp

end

section

variable (config : Config) (span : Span) (exchange : Exchange) (timeout : Timeout) (channel : Channel)

theorem exchanged_of_decodes {α : Type} {read : List UInt8 → Except Error α} {answer : Answer}
    {sent : Except Error (Option (List UInt8)) × Channel} (decodes : Decodes read)
    (handed : channel.Sent [(exchange.request config timeout, answer)] sent.2)
    (result : sent.1 = answer.bind Response.outcome) :
    Exchanged read (exchange.request config timeout) channel answer (readBody read sent.1, sent.2) := by
  have concluded : Concluded read answer (readBody read sent.1) := by
    rw [result]
    cases answer with
    | error error => exact .unanswered error
    | ok response => exact concluded_outcome decodes response
  refine ⟨handed, concluded, ?_, ?_⟩
  · rintro response rfl
    exact concluded.not_ofBody
  · rintro response rfl
    exact concluded.not_ofStatus

/-- Each call of an exchange hands over its request once, and the answer decides what it gives. -/
theorem Channel.exchange_answered :
    ∃ answer,
      Exchanged (readPayload exchange.contentType) (exchange.request config timeout) channel answer
        (((Client.over config).withSpan span).exchange exchange timeout channel) ∧
      (∀ {α : Type} (read : Json.Reader α), Exchanged (readJson read) (exchange.request config timeout) channel answer
        (((Client.over config).withSpan span).exchangeJson read exchange timeout channel)) ∧
      Exchanged .ok (exchange.request config timeout) channel answer
        (((Client.over config).withSpan span).exchangeBinary exchange timeout channel) ∧
      Exchanged readText (exchange.request config timeout) channel answer
        (((Client.over config).withSpan span).exchangeText exchange timeout channel) := by
  obtain ⟨answer, sent, result⟩ := channel.sent_send config span exchange timeout
  refine ⟨answer, ?_, fun read => ?_, ?_, ?_⟩
  · exact exchanged_of_decodes config exchange timeout channel (decodes_payload exchange.contentType) sent result
  · exact exchanged_of_decodes config exchange timeout channel (decodes_json read) sent result
  · exact exchanged_of_decodes config exchange timeout channel decodes_bytes sent result
  · exact exchanged_of_decodes config exchange timeout channel decodes_text sent result

end

end Catalog
