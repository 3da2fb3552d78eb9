import Catalog.Http.Wire
import Catalog.Log

set_option autoImplicit false

namespace Catalog

abbrev Answer := Except Error Response

inductive Transport where
  | scripted (answers : List Answer) (exhausted : Answer)
  /-- Answers as it sees fit, which may depend on all requests so far; the last of them is the one to answer. -/
  | reactive (answer : List Request → Answer)
  /-- Sends messages to the server, which gives the replies in order and then closes every connection. -/
  | wire (agent : String) (server : Wire.Server) (replies : List Wire.Reply)

structure Channel where
  transport : Transport
  requests : List Request
  answers : List Answer
  messages : List Wire.Message
  events : List Event

def Channel.new (transport : Transport) : Channel :=
  ⟨transport, [], [], [], []⟩

def Channel.record (channel : Channel) (event : Event) : Channel :=
  { channel with events := channel.events ++ [event] }

def Channel.note (channel : Channel) (request : Request) (answer : Answer) : Channel :=
  { channel with requests := channel.requests ++ [request], answers := channel.answers ++ [answer] }

def responseReceived (span : Option Span) (response : Response) : Event :=
  ⟨.trace, span, "response received",
    [("status", toString response.status), ("bytes", toString response.body.length)]⟩

-- What the wire makes of a request: the answer, the message that reached the server if one did, and the
-- replies that are left.
def Wire.send (agent : String) (server : Wire.Server) (replies : List Wire.Reply) (request : Request) :
    Answer × Option Wire.Message × List Wire.Reply :=
  match Wire.check request with
  | .error error => (.error error, none, replies)
  | .ok address =>
    if server.owns address then
      ((Wire.receive address (replies.headD .close)).mapError (.transport request.url),
        some (Wire.message agent request address), replies.tail)
    else (.error (.transport request.url (.refused (Wire.shown address))), none, replies)

def Channel.transmit (channel : Channel) (span : Option Span) (request : Request) : Answer × Channel :=
  match channel.transport with
  | .scripted [] exhausted => (exhausted, channel.note request exhausted)
  | .scripted (answer :: answers) exhausted =>
    (answer, { channel with transport := .scripted answers exhausted }.note request answer)
  | .reactive answer =>
    let given := answer (channel.requests ++ [request])
    (given, channel.note request given)
  | .wire agent server replies =>
    let (answer, message, replies) := Wire.send agent server replies request
    let channel :=
      { channel with
        transport := .wire agent server replies
        messages := channel.messages ++ message.toList }
    match answer with
    | .ok response => (answer, (channel.note request answer).record (responseReceived span response))
    | .error _ => (answer, channel.note request answer)

@[simp] theorem Channel.requests_transmit (channel : Channel) (span : Option Span) (request : Request) :
    (channel.transmit span request).2.requests = channel.requests ++ [request] := by
  unfold Channel.transmit
  split
  · rfl
  · rfl
  · rfl
  · dsimp only
    split <;> rfl

@[simp] theorem Channel.answers_transmit (channel : Channel) (span : Option Span) (request : Request) :
    (channel.transmit span request).2.answers =
      channel.answers ++ [(channel.transmit span request).1] := by
  unfold Channel.transmit
  split
  · rfl
  · rfl
  · rfl
  · dsimp only
    split <;> rfl

end Catalog
