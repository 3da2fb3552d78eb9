import Catalog.Channel

set_option autoImplicit false

namespace Catalog

def Transport.isLogging : Transport → Bool
  | .wire .. => true
  | .scripted .. | .reactive _ => false

def Transport.received (transport : Transport) (span : Option Span) : Answer → List Event
  | .ok response => if transport.isLogging then [responseReceived span response] else []
  | .error _ => []

theorem Transport.received_quiet {transport : Transport} (quiet : transport.isLogging = false) (span : Option Span)
    (answer : Answer) : transport.received span answer = [] := by
  cases answer <;> simp [received, quiet]

section

variable (channel : Channel) (span : Option Span) (request : Request)

theorem Channel.isLogging_transmit :
    (channel.transmit span request).2.transport.isLogging = channel.transport.isLogging := by
  rcases channel with ⟨transport, requests, answers, messages, events⟩
  cases transport with
  | scripted script exhausted => cases script <;> rfl
  | reactive answer => rfl
  | wire agent server replies =>
    rcases sent : Wire.send agent server replies request with ⟨_ | response, message, later⟩ <;>
      simp [Channel.transmit, sent, Channel.note, Channel.record, Transport.isLogging]

theorem Channel.events_transmit :
    (channel.transmit span request).2.events =
      channel.events ++ channel.transport.received span (channel.transmit span request).1 := by
  rcases channel with ⟨transport, requests, answers, messages, events⟩
  cases transport with
  | scripted script exhausted =>
    rw [Transport.received_quiet rfl, List.append_nil]
    cases script <;> rfl
  | reactive answer =>
    rw [Transport.received_quiet rfl, List.append_nil]
    rfl
  | wire agent server replies =>
    rcases sent : Wire.send agent server replies request with ⟨_ | response, message, later⟩ <;>
      simp [Channel.transmit, sent, Channel.note, Channel.record, Transport.received, Transport.isLogging]

theorem Channel.transmit_wire {agent : String} {server : Wire.Server} {replies : List Wire.Reply}
    (wire : channel.transport = .wire agent server replies) :
    (channel.transmit span request).1 = (Wire.send agent server replies request).1 ∧
      (channel.transmit span request).2.transport = .wire agent server (Wire.send agent server replies request).2.2 ∧
      (channel.transmit span request).2.messages =
        channel.messages ++ (Wire.send agent server replies request).2.1.toList := by
  rcases sent : Wire.send agent server replies request with ⟨_ | response, message, later⟩ <;>
    simp [Channel.transmit, wire, sent, Channel.note, Channel.record]

end

end Catalog
