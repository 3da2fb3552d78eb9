import Mathlib.Tactic.SplitIfs
import Catalog.Proofs.Running
import Catalog.World

set_option autoImplicit false

namespace Catalog

structure Call (α : Type) where
  exchange : Exchange
  read : List UInt8 → Except Error α
  blank : α

def Config.presetsCall (config : Config) : Call (List Preset) :=
  ⟨config.presetsExchange, readJson (Json.list Preset.schema.read), []⟩

def Config.searchCall (config : Config) (query : String) : Call (List SearchResult) :=
  ⟨config.searchExchange query, readJson (Json.list SearchResult.schema.read), []⟩

def Config.entriesCall (config : Config) (locator : Locator) : Call ContentEntries :=
  ⟨config.entriesExchange locator, readJson ContentEntries.schema.read, .blank⟩

def Config.downloadCall (config : Config) (locator : Locator) (item : ContentItem) : Call (List UInt8) :=
  ⟨config.downloadExchange locator item.id, .ok, []⟩

theorem exists_failure_of_readJson {α : Type} {read : Json.Reader α} {body : List UInt8} {error : Error}
    (failed : readJson read body = .error error) : ∃ failure, error = .json failure := by
  unfold readJson at failed
  cases given : Json.readAll read body with
  | error failure =>
    rw [given] at failed
    exact ⟨failure, (Except.error.inj failed).symm⟩
  | ok x =>
    rw [given] at failed
    cases failed

namespace Call

variable {α : Type}

def request (call : Call α) (config : Config) : Request :=
  call.exchange.request config config.timeout

def outcome (call : Call α) (answer : Answer) : Except Error α :=
  orBlank call.blank (readBody call.read (answer.bind Response.outcome))

def Gives (call : Call α) (answer : Answer) (x : α) : Prop :=
  ∃ response, answer = .ok response ∧ response.isSuccess = true ∧
    (response.body = [] ∧ x = call.blank ∨ response.body ≠ [] ∧ call.read response.body = .ok x)

theorem outcome_error (call : Call α) (error : Error) : call.outcome (.error error) = .error error :=
  rfl

theorem outcome_ok (call : Call α) (response : Response) :
    call.outcome (.ok response) =
      if response.isSuccess then if response.body = [] then .ok call.blank else call.read response.body
      else .error (.http response.status response.reason response.errorText?) := by
  have amounts : (Except.ok response : Answer).bind Response.outcome = response.outcome := rfl
  unfold outcome
  rw [amounts, Response.outcome]
  cases success : response.isSuccess with
  | false => rfl
  | true =>
    cases body : response.body with
    | nil => rfl
    | cons byte bytes => cases read : call.read (byte :: bytes) <;> simp [readBody, orBlank, Except.map, read]

theorem outcome_eq_ok_iff (call : Call α) (answer : Answer) (x : α) :
    call.outcome answer = .ok x ↔ call.Gives answer x := by
  cases answer with
  | error error => simp [Gives, outcome_error]
  | ok response =>
    rw [outcome_ok]
    constructor
    · intro given
      split_ifs at given with success empty
      · exact ⟨response, rfl, success, .inl ⟨empty, (Except.ok.inj given).symm⟩⟩
      · exact ⟨response, rfl, success, .inr ⟨empty, given⟩⟩
    · rintro ⟨_, same, success, ⟨empty, rfl⟩ | ⟨filled, given⟩⟩
      · obtain rfl := Except.ok.inj same
        rw [if_pos success, if_pos empty]
      · obtain rfl := Except.ok.inj same
        rw [if_pos success, if_neg filled, given]

theorem Gives.unique {call : Call α} {answer : Answer} {x y : α} (first : call.Gives answer x)
    (second : call.Gives answer y) : x = y := by
  rw [← outcome_eq_ok_iff] at first second
  exact Except.ok.inj (first.symm.trans second)

theorem Gives.not_error {call : Call α} {answer : Answer} {x : α} {error : Error}
    (given : call.Gives answer x) : call.outcome answer ≠ .error error := by
  rw [← outcome_eq_ok_iff] at given
  simp [given]

end Call

structure Channel.Sent (before : Channel) (calls : List (Request × Answer)) (after : Channel) : Prop where
  requests : after.requests = before.requests ++ calls.map Prod.fst
  answers : after.answers = before.answers ++ calls.map Prod.snd

theorem Channel.Sent.refl (channel : Channel) : channel.Sent [] channel :=
  ⟨by simp, by simp⟩

theorem Channel.Sent.trans {first second third : Channel} {calls more : List (Request × Answer)}
    (before : first.Sent calls second) (after : second.Sent more third) : first.Sent (calls ++ more) third :=
  ⟨by simp [after.requests, before.requests], by simp [after.answers, before.answers]⟩

theorem Channel.Sent.mem {before after : Channel} {calls : List (Request × Answer)} (sent : before.Sent calls after)
    {request : Request} {answer : Answer} (member : (request, answer) ∈ calls) : answer ∈ after.answers := by
  rw [sent.answers]
  exact List.mem_append_right _ (List.mem_map_of_mem member)

theorem Channel.Sent.unique {before after : Channel} {calls others : List (Request × Answer)}
    (sent : before.Sent calls after) (again : before.Sent others after) : calls = others := by
  have requests := List.append_cancel_left (sent.requests.symm.trans again.requests)
  have answers := List.append_cancel_left (sent.answers.symm.trans again.answers)
  rw [← List.zip_unzip calls, ← List.zip_unzip others, List.unzip_eq_map, List.unzip_eq_map, requests, answers]

theorem Channel.sent_record (channel : Channel) (event : Event) : channel.Sent [] (channel.record event) :=
  ⟨by simp [Channel.record], by simp [Channel.record]⟩

section

variable {m : Type → Type} [Monad m] {α : Type}

def Client.ask (client : Client m) (call : Call α) : m (Except Error α) :=
  return orBlank call.blank (← client.exchangeWith call.read call.exchange client.config.timeout)

end

section

variable {α : Type} (config : Config) (span : Span)

def Channel.ask (channel : Channel) (call : Call α) : Except Error α × Channel :=
  ((Client.over config).withSpan span).ask call channel

theorem forM_record (events : List Event) (channel : Channel) :
    events.forM ((Client.over config).withSpan span).record channel = ((), events.foldl Channel.record channel) := by
  induction events generalizing channel with
  | nil => rfl
  | cons event rest ih => exact ih (channel.record event)

def Channel.logs (channel : Channel) (events : List Event) : Channel :=
  { channel with events := channel.events ++ events }

theorem foldl_record (events : List Event) (channel : Channel) :
    events.foldl Channel.record channel = channel.logs events := by
  induction events generalizing channel with
  | nil => simp [Channel.logs]
  | cons event rest ih => simp [ih, Channel.record, Channel.logs]

def closingEvents : Answer → List Event
  | .ok response => response.closing span
  | .error _ => []

theorem Channel.send_eq (channel : Channel) (exchange : Exchange) (timeout : Timeout) :
    ((Client.over config).withSpan span).send exchange timeout channel =
      let request := exchange.request config timeout
      let handed := (channel.logs (exchange.opening span request)).transmit (some span) request
      (handed.1.bind Response.outcome, handed.2.logs (closingEvents span handed.1)) := by
  have recorded := forM_record config span
  unfold Client.send
  dsimp only [Client.withSpan, Client.over] at recorded ⊢
  simp only [bind_apply, recorded, foldl_record]
  rcases Channel.transmit _ _ _ with ⟨_ | response, after⟩
  · simp only [pure_apply, closingEvents, Channel.logs, List.append_nil]
    rfl
  · simp only [bind_apply, recorded, foldl_record, pure_apply, closingEvents]
    rfl

def Channel.hand (channel : Channel) (call : Call α) : Answer × Channel :=
  (channel.logs (call.exchange.opening span (call.request config))).transmit (some span) (call.request config)

theorem Channel.ask_eq (channel : Channel) (call : Call α) : channel.ask config span call =
    (call.outcome (channel.hand config span call).1,
      (channel.hand config span call).2.logs (closingEvents span (channel.hand config span call).1)) := by
  have sent := channel.send_eq config span call.exchange config.timeout
  unfold Channel.ask Client.ask Client.exchangeWith
  simp only [bind_apply, pure_apply]
  dsimp only [Client.withSpan, Client.over] at sent ⊢
  rw [sent]
  rfl

theorem Channel.sent_logs (channel : Channel) (events : List Event) : channel.Sent [] (channel.logs events) :=
  ⟨by simp [Channel.logs], by simp [Channel.logs]⟩

theorem Channel.sent_transmit (channel : Channel) (span : Option Span) (request : Request) :
    channel.Sent [(request, (channel.transmit span request).1)] (channel.transmit span request).2 :=
  ⟨by simp, by simp⟩

theorem Channel.sent_opened (channel : Channel) (events : List Event) (request : Request) :
    channel.Sent [(request, ((channel.logs events).transmit (some span) request).1)]
      ((channel.logs events).transmit (some span) request).2 :=
  (channel.sent_logs events).trans (Channel.sent_transmit _ (some span) request)

theorem Channel.sent_hand (channel : Channel) (call : Call α) :
    channel.Sent [(call.request config, (channel.hand config span call).1)] (channel.hand config span call).2 :=
  channel.sent_opened span _ _

theorem Channel.answers_ask (channel : Channel) (call : Call α) : (channel.ask config span call).2.answers =
    channel.answers ++ [(channel.hand config span call).1] := by
  rw [ask_eq]
  exact answers_transmit ..

theorem Channel.ask_sent (channel : Channel) (call : Call α) :
    ∃ answer, channel.Sent [(call.request config, answer)] (channel.ask config span call).2 ∧
      (channel.ask config span call).1 = call.outcome answer := by
  rw [ask_eq]
  exact ⟨_, (channel.sent_hand config span call).trans (sent_logs _ _), rfl⟩

namespace World

theorem onChannel_apply (act : Channel → α × Channel) (world : World) :
    onChannel act world = ((act world.channel).1, { world with channel := (act world.channel).2 }) :=
  rfl

theorem forM_record (events : List Event) :
    events.forM ((World.client config).withSpan span).record =
      onChannel (events.forM ((Client.over config).withSpan span).record) := by
  induction events with
  | nil => rfl
  | cons event rest ih =>
    funext world
    simp only [List.forM, ih]
    rfl

theorem send_eq (exchange : Exchange) (timeout : Timeout) :
    ((World.client config).withSpan span).send exchange timeout =
      onChannel (((Client.over config).withSpan span).send exchange timeout) := by
  funext world
  have recorded := World.forM_record config span
  unfold Client.send
  dsimp only [Client.withSpan, Client.over, client] at recorded ⊢
  simp only [bind_apply, recorded, onChannel_apply]
  rcases Channel.transmit _ _ _ with ⟨_ | response, after⟩
  · rfl
  · rfl

theorem presets_eq_ask : ((World.client config).withSpan span).presets =
    ((World.client config).withSpan span).ask config.presetsCall :=
  rfl

theorem search_eq_ask (query : String) : ((World.client config).withSpan span).search query =
    ((World.client config).withSpan span).ask (config.searchCall query) :=
  rfl

theorem entries_eq_ask (locator : Locator) : ((World.client config).withSpan span).entries locator =
    ((World.client config).withSpan span).ask (config.entriesCall locator) :=
  rfl

theorem download_eq_ask (locator : Locator) (item : ContentItem) :
    ((World.client config).withSpan span).download locator item.id =
      ((World.client config).withSpan span).ask (config.downloadCall locator item) :=
  rfl

theorem ask_eq (call : Call α) (world : World) :
    ((World.client config).withSpan span).ask call world =
      ((world.channel.ask config span call).1, { world with channel := (world.channel.ask config span call).2 }) := by
  unfold Client.ask Client.exchangeWith
  simp only [bind_apply, pure_apply]
  have sent := congrFun (send_eq config span call.exchange config.timeout) world
  rw [onChannel_apply] at sent
  dsimp only [Client.withSpan, World.client] at sent ⊢
  rw [sent]
  rfl

theorem perform_ask (stage : Stage) (call : Call α) (world : World) :
    perform (atStage stage (((World.client config).withSpan span).ask call)) world =
      match world.channel.ask config span call with
      | (result, channel) => (result.mapError (.exchange stage), { world with channel }) := by
  rw [perform_atStage, ask_eq]

end World

end

end Catalog
