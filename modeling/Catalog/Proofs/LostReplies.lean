import Catalog.Proofs.Misconfiguration
import Catalog.Proofs.Served

set_option autoImplicit false

namespace Catalog

namespace Wire

inductive Reply.Lost : Reply → Prop where
  | short {status : Nat} {reason : String} {body : List UInt8} {announced : Nat} (final : isFinal status = true)
    (bodied : hasNoBody status = false) (framed : isReason reason = true) (early : body.length < announced) :
    Lost (.answer status reason body announced)
  | close : Lost .close
  | silence : Lost .silence

theorem informs_of_isFinal {status : Nat} (final : isFinal status = true) : informs status = false := by
  simp only [isFinal, informs, Bool.or_eq_true, Bool.and_eq_true, Bool.and_eq_false_iff, beq_iff_eq,
    decide_eq_true_eq, decide_eq_false_iff_not, bne_eq_false_iff_eq] at *
  omega

theorem arrival_answer {status : Nat} {reason : String} (final : isFinal status = true)
    (bodied : hasNoBody status = false) (framed : isReason reason = true) (body : List UInt8) (announced : Nat) :
    (Reply.answer status reason body announced).arrival =
      .response (UInt16.ofNat status) (body.take announced) (announced ≤ body.length) := by
  simp [Reply.arrival, informs_of_isFinal final, final, bodied, framed]

section

variable {reply : Reply}

theorem receive_lost (address : Url.Address) (lost : reply.Lost) :
    ∃ fault, receive address reply = .error fault ∧ (fault.isTimeout = true ↔ reply = .silence) := by
  cases lost with
  | @short status reason body announced final bodied framed early =>
    refine ⟨.cutShort, ?_, by simp [TransportFault.isTimeout]⟩
    have unwhole : ¬ announced ≤ body.length := by omega
    rw [receive, arrival_answer final bodied framed]
    simp [settle, unwhole]
  | close => exact ⟨.closed (shown address), rfl, by simp [TransportFault.isTimeout]⟩
  | silence => exact ⟨.timedOut (shown address), rfl, by simp [TransportFault.isTimeout]⟩

theorem receive_whole {address : Url.Address} {response : Response} (received : receive address reply = .ok response) :
    reply.arrival = .response response.status response.body true := by
  unfold receive at received
  cases arrived : reply.arrival with
  | closed =>
    rw [arrived] at received
    cases received
  | timedOut =>
    rw [arrived] at received
    cases received
  | response status body isWhole =>
    rw [arrived, settle] at received
    cases isWhole with
    | false => cases received
    | true =>
      cases received
      rfl

theorem Answered.lost {call : Request × Answer} (answered : Answered call (some reply)) (lost : reply.Lost) :
    ∃ fault, call.2 = .error (.transport call.1.url fault) ∧ (fault.isTimeout = true ↔ reply = .silence) := by
  cases answered with
  | served request address _ reached =>
    obtain ⟨fault, received, marked⟩ := receive_lost address lost
    exact ⟨fault, by rw [received]; rfl, marked⟩

theorem Answered.whole {call : Request × Answer} {reply? : Option Reply} {response : Response}
    (answered : Answered call reply?) (given : call.2 = .ok response) :
    ∃ reply, reply? = some reply ∧ reply.arrival = .response response.status response.body true := by
  cases answered with
  | unserved request error => cases given
  | served request address reply reached =>
    cases received : receive address reply with
    | error fault =>
      rw [received] at given
      cases given
    | ok other =>
      rw [received] at given
      cases given
      exact ⟨reply, rfl, receive_whole received⟩

end

-- The whole body of a reply to a download. The first reply is the listing.
def Brought (given : List (Option Reply)) (bytes : List UInt8) : Prop :=
  ∃ number reply status, given[number + 1]? = some (some reply) ∧ reply.arrival = .response status bytes true ∧
    isSuccess status = true

end Wire

theorem Tree.saveAll_fileAt? {tree saved : Tree} {directory : String} {done : List (ContentItem × List UInt8)}
    (stored : tree.saveAll directory done = some saved) (place : Place) :
    saved.fileAt? place = tree.fileAt? place ∨
      ∃ entry ∈ done, place = entry.1.place tree directory ∧ saved.fileAt? place = some entry.2 := by
  induction done generalizing tree with
  | nil =>
    obtain rfl := Option.some.inj stored
    exact .inl rfl
  | cons entry rest ih =>
    obtain ⟨item, bytes⟩ := entry
    have grown := save_grown tree item directory bytes
    rcases result : tree.save item directory bytes with ⟨_ | path, next⟩
    · simp [saveAll, result] at stored
    simp only [saveAll, result] at stored
    rw [result] at grown
    rcases ih stored with kept | ⟨later, member, here, written⟩
    · by_cases own : place = item.place tree directory
      · refine .inr ⟨(item, bytes), List.mem_cons_self, own, ?_⟩
        rw [kept, own, fileAt?, (at?_of_saved result).1]
      · exact .inl (kept.trans (grown.fileAt? fun here => own here.1))
    · rw [place_eq (home_of_save result)] at here
      exact .inr ⟨later, List.mem_cons_of_mem _ member, here, written⟩

section

variable {config : Config} {locator : Locator} {choice : SearchResult} {directory agent : String}
  {server : Wire.Server} {replies : List Wire.Reply} {before after : Channel} {calls : List (Request × Answer)}

theorem getElem?_of_forall₂ {α β : Type} {related : α → β → Prop} {xs : List α} {ys : List β}
    (all : List.Forall₂ related xs ys) {i : Nat} {y : β} (there : ys[i]? = some y) :
    ∃ x, xs[i]? = some x ∧ related x y := by
  induction all generalizing i with
  | nil => cases there
  | cons first rest ih =>
    cases i with
    | zero =>
      obtain rfl := Option.some.inj there
      exact ⟨_, rfl, first⟩
    | succ i => exact ih there

theorem getElem?_concat {α : Type} {xs : List α} {last x : α} {i : Nat} (there : (xs ++ [last])[i]? = some x) :
    xs[i]? = some x ∨ i = xs.length ∧ x = last := by
  rw [List.getElem?_append] at there
  split_ifs at there with short
  · exact .inl there
  · rw [List.getElem?_singleton] at there
    split_ifs at there with first
    exact .inr ⟨by omega, (Option.some.inj there).symm⟩

theorem Channel.Served.lost (served : before.Served agent server replies after calls) {i : Nat} {reply : Wire.Reply}
    (given : (server.repliesTo replies (calls.map Prod.fst))[i]? = some (some reply)) (lost : reply.Lost) :
    ∃ request fault, calls[i]? = some (request, .error (.transport request.url fault)) ∧
      (fault.isTimeout = true ↔ reply = .silence) := by
  obtain ⟨⟨request, answer⟩, here, answered⟩ := getElem?_of_forall₂ served.answered given
  obtain ⟨fault, failed, marked⟩ := answered.lost lost
  dsimp only at failed
  exact ⟨request, fault, failed ▸ here, marked⟩

theorem Channel.Served.whole (served : before.Served agent server replies after calls) {i : Nat} {request : Request}
    {response : Response} (here : calls[i]? = some (request, .ok response)) :
    ∃ reply, (server.repliesTo replies (calls.map Prod.fst))[i]? = some (some reply) ∧
      reply.arrival = .response response.status response.body true := by
  obtain ⟨reply?, given, answered⟩ := getElem?_of_forall₂ served.answered.flip here
  obtain ⟨reply, rfl, arrived⟩ := answered.whole rfl
  exact ⟨reply, given, arrived⟩

theorem Config.Delivers.response {entry : ContentItem × List UInt8} {call : Request × Answer}
    (delivers : config.Delivers locator entry call) :
    ∃ response, call.2 = .ok response ∧ response.isSuccess = true ∧ response.body = entry.2 := by
  obtain ⟨-, response, answered, success, ⟨empty, blank⟩ | ⟨filled, given⟩⟩ := delivers
  · exact ⟨response, answered, success, empty.trans blank.symm⟩
  · exact ⟨response, answered, success, Except.ok.inj given⟩

theorem getElem?_delivered_ne_error {done : List (ContentItem × List UInt8)} {delivered : List (Request × Answer)}
    (came : List.Forall₂ (config.Delivers locator) done delivered) {i : Nat} {request : Request} {error : Error} :
    delivered[i]? ≠ some (request, .error error) := by
  intro there
  obtain ⟨entry, -, delivers⟩ := getElem?_of_forall₂ came there
  obtain ⟨response, answered, -⟩ := delivers.response
  cases answered

inductive StoppedAt (config : Config) (choice : SearchResult) (directory : String) (start : World)
    (calls : List (Request × Answer)) (number : Nat) (fault : TransportFault) :
    Except Failure (List (String × Nat)) × World → Prop where
  | intro (locator : Locator) (answer : Answer) (entries : ContentEntries) (done : List (ContentItem × List UInt8))
    (delivered : List (Request × Answer)) (item : ContentItem) (rest : List ContentItem) (request : Request)
    (final : World) (located : choice.locator? = some locator)
    (listed : (config.entriesCall locator).Gives answer entries)
    (cut : entries.items = done.map Prod.fst ++ item :: rest) (count : done.length = number)
    (came : List.Forall₂ (config.Delivers locator) done delivered)
    (built : request = (config.downloadCall locator item).request config)
    (asked : calls = ((config.entriesCall locator).request config, answer) ::
      (delivered ++ [(request, .error (.transport request.url fault))]))
    (stored : start.tree.saveAll directory done = some final.tree) :
    StoppedAt config choice directory start calls number fault
      (.error (.exchange (.download item.path) (.transport request.url fault)), final)

theorem Download.stoppedAt {start : World} {result : Except Failure (List (String × Nat)) × World}
    (ended : Download config choice directory start result)
    (sent : start.channel.Sent calls result.2.channel) {number : Nat} {request : Request} {fault : TransportFault}
    (here : calls[number + 1]? = some (request, .error (.transport request.url fault))) :
    StoppedAt config choice directory start calls number fault result := by
  cases ended with
  | unlocated absent =>
    rw [sent.unique (.refl _)] at here
    cases here
  | unlisted locator answer channel error located asked failed =>
    rw [sent.unique asked] at here
    cases here
  | listed locator answer channel entries _ located asked listed ended =>
    cases ended with
    | finished done after all downloaded =>
      obtain ⟨⟨delivered, came, continued⟩, -, -⟩ := downloaded
      rw [sent.unique (asked.trans continued)] at here
      exact absurd here (getElem?_delivered_ne_error came)
    | stopped done item rest between failure final cut downloaded missed =>
      obtain ⟨⟨delivered, came, continued⟩, stored, -⟩ := downloaded
      -- What came before was answered, so a call that failed can only be the last.
      cases missed with
      | download last error channel tried failed =>
        obtain rfl := sent.unique (asked.trans (continued.trans tried))
        rcases getElem?_concat here with there | ⟨count, same⟩
        · exact absurd there (getElem?_delivered_ne_error came)
        · obtain ⟨rfl, rfl⟩ := Prod.mk.inj same
          obtain rfl := Except.error.inj failed
          exact .intro locator answer entries done delivered item rest _ _ located listed cut
            (came.length_eq.trans count.symm) came rfl rfl stored
      | save last bytes channel _ tree tried given failed =>
        obtain rfl := sent.unique (asked.trans (continued.trans tried))
        rcases getElem?_concat here with there | ⟨-, same⟩
        · exact absurd there (getElem?_delivered_ne_error came)
        · obtain ⟨response, answered, -⟩ := given
          obtain rfl := (Prod.mk.inj same).2
          cases answered

theorem Channel.Served.saved (served : before.Served agent server replies after calls) {tree saved : Tree}
    {first : Request × Answer} {delivered : List (Request × Answer)} {done : List (ContentItem × List UInt8)}
    (begins : first :: delivered <+: calls) (came : List.Forall₂ (config.Delivers locator) done delivered)
    (stored : tree.saveAll directory done = some saved) (place : Place) :
    saved.fileAt? place = tree.fileAt? place ∨
      ∃ bytes, Wire.Brought (server.repliesTo replies (calls.map Prod.fst)) bytes ∧
        saved.fileAt? place = some bytes := by
  rcases Tree.saveAll_fileAt? stored place with kept | ⟨entry, member, -, written⟩
  · exact .inl kept
  · obtain ⟨number, there⟩ := List.getElem?_of_mem member
    obtain ⟨⟨request, answer⟩, here, delivers⟩ := getElem?_of_forall₂ came.flip there
    obtain ⟨response, rfl, success, body⟩ := Config.Delivers.response delivers
    have short := (List.getElem?_eq_some_iff.1 here).1
    have called : calls[number + 1]? = some (request, .ok response) := by
      obtain ⟨more, cut⟩ := begins
      rw [← cut, List.cons_append, List.getElem?_cons_succ, List.getElem?_append_left short, here]
    obtain ⟨reply, given, arrived⟩ := served.whole called
    exact .inr ⟨entry.2, ⟨number, reply, response.status, given, body ▸ arrived, success⟩, written⟩

theorem Download.written {start : World} {result : Except Failure (List (String × Nat)) × World}
    (ended : Download config choice directory start result)
    (served : start.channel.Served agent server replies result.2.channel calls) (place : Place) :
    result.2.tree.fileAt? place = start.tree.fileAt? place ∨
      ∃ bytes, Wire.Brought (server.repliesTo replies (calls.map Prod.fst)) bytes ∧
        result.2.tree.fileAt? place = some bytes := by
  cases ended with
  | unlocated absent => exact .inl rfl
  | unlisted locator answer channel error located asked failed => exact .inl rfl
  | listed locator answer channel entries _ located asked listed ended =>
    cases ended with
    | finished done after all downloaded =>
      obtain ⟨⟨delivered, came, continued⟩, stored, -⟩ := downloaded
      have whole := served.sent.unique (asked.trans continued)
      have begins : _ :: delivered <+: calls := ⟨[], (List.append_nil _).trans whole.symm⟩
      exact served.saved begins came stored place
    | stopped done item rest between failure final cut downloaded missed =>
      obtain ⟨⟨delivered, came, continued⟩, stored, -⟩ := downloaded
      obtain ⟨last, tried⟩ := missed.sent
      have whole := served.sent.unique (asked.trans (continued.trans tried))
      have begins : _ :: delivered <+: calls := ⟨_, whole.symm⟩
      rw [missed.grown.fileAt? fun never => never]
      exact served.saved begins came stored place

end

/-- The first lost reply to a download ends the run: nothing more is asked for, and everything is as the items before
have left it. Whatever the run has written is the whole body of a reply. -/
theorem World.runDownload_lost (config : Config) (span : Span) (choice : SearchResult) (directory : String)
    {agent : String} {server : Wire.Server} {replies : List Wire.Reply} {start : World}
    (wire : start.channel.transport = .wire agent server replies) :
    ∃ calls given, start.channel.Sent calls (runDownload config span choice directory start).2.channel ∧
      given = server.repliesTo replies (calls.map Prod.fst) ∧
      (∀ (number : Nat) (reply : Wire.Reply), given[number + 1]? = some (some reply) → reply.Lost →
        ∃ fault, (fault.isTimeout = true ↔ reply = .silence) ∧
          StoppedAt config choice directory start calls number fault
            (runDownload config span choice directory start)) ∧
      ∀ place : Place,
        (runDownload config span choice directory start).2.tree.fileAt? place = start.tree.fileAt? place ∨
          ∃ bytes, Wire.Brought given bytes ∧
            (runDownload config span choice directory start).2.tree.fileAt? place = some bytes := by
  have ended := runDownload_ends config span directory choice start
  obtain ⟨calls, served⟩ := runDownload_served config span choice directory wire
  refine ⟨calls, _, served.sent, rfl, fun number reply given lost => ?_, ended.written served⟩
  obtain ⟨request, fault, here, marked⟩ := served.lost given lost
  exact ⟨fault, marked, ended.stoppedAt served.sent here⟩

namespace Sample

def pair : List UInt8 := Utf8.encode "[[[1,\"a\"],[2,\"b\"]]]".toList

def short : Wire.Reply := .answer 200 "OK" [3] 5

def lossy : List Wire.Reply := [.answer 200 "OK" pair pair.length, .answer 200 "OK" [1, 2] 2, short]

def losing : World := ⟨.new (.wire "" server lossy), ⟨true, [], [], []⟩, ⟨[], []⟩⟩

end Sample

theorem World.runDownload_lost_second :
    Sample.losing.channel.transport = .wire "" Sample.server Sample.lossy ∧ Sample.short.Lost ∧
      ∃ (calls : List (Request × Answer)) (given : List (Option Wire.Reply)) (fault : TransportFault),
        given[2]? = some (some Sample.short) ∧ fault.isTimeout = false ∧
        StoppedAt (Sample.signed "s") Sample.choice "out" Sample.losing calls 1 fault
          (runDownload (Sample.signed "s") Sample.span Sample.choice "out" Sample.losing) := by
  have lost : Sample.short.Lost := .short (by decide) (by decide) (by decide +kernel) (by decide)
  have wire : Sample.losing.channel.transport = .wire "" Sample.server Sample.lossy := rfl
  obtain ⟨calls, given, sent, same, ends, -⟩ :=
    runDownload_lost (Sample.signed "s") Sample.span Sample.choice "out" wire
  have asked : calls.map Prod.fst =
      (runDownload (Sample.signed "s") Sample.span Sample.choice "out" Sample.losing).2.channel.requests :=
    sent.requests.symm
  have third : given[2]? = some (some Sample.short) := by
    rw [same, asked]
    decide +kernel
  obtain ⟨fault, marked, stopped⟩ := ends 1 Sample.short third lost
  refine ⟨wire, lost, calls, given, fault, third, ?_, stopped⟩
  rw [← Bool.not_eq_true, marked]
  decide

end Catalog
