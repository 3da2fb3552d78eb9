import Mathlib.Data.List.Forall2
import Mathlib.Tactic.SplitIfs
import Catalog.Proofs.Coupling
import Catalog.Proofs.Journal

set_option autoImplicit false

namespace Catalog

namespace Wire

def Server.reply? (server : Server) (replies : List Reply) (request : Request) : Option Reply :=
  match check request with
  | .ok address => if server.owns address then some (replies.headD .close) else none
  | .error _ => none

-- The replies that are left after a request. Only one that reaches the server uses one up.
def Server.left (server : Server) (replies : List Reply) (request : Request) : List Reply :=
  if (server.reply? replies request).isSome then replies.tail else replies

def Server.repliesTo (server : Server) (replies : List Reply) : List Request → List (Option Reply)
  | [] => []
  | request :: rest => server.reply? replies request :: server.repliesTo (server.left replies request) rest

inductive Answered : Request × Answer → Option Reply → Prop where
  | served (request : Request) (address : Url.Address) (reply : Reply) (reached : check request = .ok address) :
    Answered (request, (receive address reply).mapError (.transport request.url)) (some reply)
  | unserved (request : Request) (error : Error) : Answered (request, .error error) none

section

variable {agent : String} {server : Server} {replies : List Reply} {request : Request}

theorem send_arrived {message : Message} (sent : (send agent server replies request).2.1 = some message) :
    ∃ address, check request = .ok address ∧ server.owns address = true ∧
      message = Wire.message agent request address := by
  unfold send at sent
  split at sent
  · cases sent
  next address checked =>
    split_ifs at sent with owned
    exact ⟨address, checked, owned, (Option.some.inj sent).symm⟩

theorem read_of_check {address : Url.Address} (checked : check request = .ok address) :
    Url.read request.url = .ok address := by
  unfold check destination at checked
  split at checked
  · cases checked
  cases read : Url.read request.url with
  | error fault =>
    rw [read] at checked
    cases checked
  | ok found =>
    rw [read] at checked
    dsimp only at checked
    split_ifs at checked
    all_goals cases checked
    rfl

theorem answered_send (agent : String) (server : Server) (replies : List Reply) (request : Request) :
    Answered (request, (send agent server replies request).1) (server.reply? replies request) ∧
      (send agent server replies request).2.2 = server.left replies request := by
  unfold send Server.left Server.reply?
  cases checked : check request with
  | error error => exact ⟨.unserved request error, rfl⟩
  | ok address =>
    by_cases owned : server.owns address
    · simp only [if_pos owned]
      exact ⟨.served request address _ checked, rfl⟩
    · simp only [if_neg owned]
      exact ⟨.unserved request _, rfl⟩

theorem repliesTo_append (front back : List Request) : server.repliesTo replies (front ++ back) =
    server.repliesTo replies front ++ server.repliesTo (front.foldl server.left replies) back := by
  induction front generalizing replies with
  | nil => rfl
  | cons request rest ih => exact congrArg (server.reply? replies request :: ·) ih

end

end Wire

structure Channel.Served (agent : String) (server : Wire.Server) (replies : List Wire.Reply) (before after : Channel)
    (calls : List (Request × Answer)) : Prop where
  sent : before.Sent calls after
  wire : after.transport = .wire agent server ((calls.map Prod.fst).foldl server.left replies)
  answered : List.Forall₂ Wire.Answered calls (server.repliesTo replies (calls.map Prod.fst))

section

variable {agent : String} {server : Wire.Server} {replies : List Wire.Reply} {before after : Channel}
  {calls : List (Request × Answer)}

theorem Channel.Served.refl (wire : before.transport = .wire agent server replies) :
    before.Served agent server replies before [] :=
  ⟨.refl before, wire, .nil⟩

theorem Channel.Served.logs (served : before.Served agent server replies after calls) (events : List Event) :
    before.Served agent server replies (after.logs events) calls :=
  ⟨⟨served.sent.requests, served.sent.answers⟩, served.wire, served.answered⟩

theorem Channel.Served.transmit (served : before.Served agent server replies after calls) (span : Option Span)
    (request : Request) :
    before.Served agent server replies (after.transmit span request).2
      (calls ++ [(request, (after.transmit span request).1)]) := by
  obtain ⟨answer, transport, -⟩ := after.transmit_wire span request served.wire
  obtain ⟨answered, left⟩ :=
    Wire.answered_send agent server ((calls.map Prod.fst).foldl server.left replies) request
  constructor
  case sent => exact served.sent.trans (after.sent_transmit span request)
  case wire =>
    rw [transport, left, List.map_append, List.foldl_append]
    rfl
  case answered =>
    rw [List.map_append, Wire.repliesTo_append, answer]
    exact List.rel_append served.answered (.cons answered .nil)

end

theorem World.runDownload_served (config : Config) (span : Span) (choice : SearchResult) (directory : String)
    {agent : String} {server : Wire.Server} {replies : List Wire.Reply} {start : World}
    (wire : start.channel.transport = .wire agent server replies) :
    ∃ calls, start.channel.Served agent server replies (runDownload config span choice directory start).2.channel
      calls := by
  let kept (channel : Channel) : Prop := ∃ calls, start.channel.Served agent server replies channel calls
  have transmits (channel : Channel) (request : Request) (_ : request.headers = config.headers) (begun : kept channel) :
      kept (channel.transmit (some span) request).2 := by
    obtain ⟨calls, served⟩ := begun
    exact ⟨_, served.transmit (some span) request⟩
  have logs (channel : Channel) (events : List Event) (begun : kept channel) : kept (channel.logs events) := by
    obtain ⟨calls, served⟩ := begun
    exact ⟨calls, served.logs events⟩
  exact ((Coupling.of_kept transmits logs).downloadChoice choice directory).keeps ⟨[], .refl wire⟩

end Catalog
