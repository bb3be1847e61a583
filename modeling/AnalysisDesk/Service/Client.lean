import AnalysisDesk.Journal.Event
import AnalysisDesk.Service.Reply
import AnalysisDesk.Text.Utf8

/-! # Client of the service
A source is sent as one request to the configured endpoint and its reply is interpreted. The
service is stood for by a transport that answers from a list of replies, the last of which it
repeats, or fails every time; it keeps every request it was sent. -/

namespace AnalysisDesk.Service

open AnalysisDesk.Json (Value)
open AnalysisDesk.Journal (Event)

/-- A request. -/
structure Request where
  /-- The address it is sent to. -/
  url : String
  /-- The headers, in order. -/
  headers : List (String × String)
  /-- The body. -/
  body : String
  deriving DecidableEq, Repr

/-- A transport that answers from a list. -/
structure Transport where
  /-- The replies still to be given, the next one first. -/
  queue : List Reply
  /-- The reply given once the others are used up. -/
  last : Reply
  /-- Why every request fails, none if they are answered. -/
  fault : Option String
  /-- The requests received so far, the first one first. -/
  requests : List Request
  deriving DecidableEq, Repr

namespace Transport

/-- A transport that gives one reply for ever. -/
def always (reply : Reply) : Transport := ⟨[], reply, none, []⟩

/-- A transport that fails every request. -/
def failing (cause : String) : Transport := ⟨[], ⟨0, ""⟩, some cause, []⟩

/-- A transport that gives replies in order and then the last one for ever; without any it gives an
empty one of success. -/
def replying (replies : List Reply) : Transport :=
  ⟨replies.dropLast, replies.getLast?.getD ⟨200, ""⟩, none, []⟩

/-- Send a request. It is recorded whether or not it is answered. -/
def post (transport : Transport) (request : Request) :
    Except TransportFault Reply × Transport :=
  let transport := { transport with requests := transport.requests ++ [request] }
  match transport.fault with
  | some cause => (.error (.network cause), transport)
  | none =>
    match transport.queue with
    | [] => (.ok transport.last, transport)
    | reply :: queue => (.ok reply, { transport with queue })

end Transport

/-- The body of a request for the analysis of a source. -/
def requestBody (source : List Char) : String :=
  (Value.object [("code", .text (String.ofList source))]).toCompact

/-- The request for the analysis of a source. -/
def Request.forSource (endpoint : String) (source : List Char) : Request :=
  ⟨endpoint, [("Content-Type", "application/json")], requestBody source⟩

/-- The result of sending a source: its outcome, the transport after it, and what was noted. -/
structure Exchange where
  /-- The outcome, or why there is none. -/
  result : Except Fault Outcome
  /-- The transport after the request. -/
  transport : Transport
  /-- What was noted, in order. -/
  events : List Event

/-- What is noted of a reply and its outcome. -/
def Reply.event (reply : Reply) : Except Fault Outcome → Event
  | .ok (.success analysis) => .succeeded reply.status analysis.tokens.length
  | .ok (.failure detail) => .rejected reply.status detail
  | .error fault => .unreadable reply.status fault.message

/-- Send a source to an endpoint for analysis. -/
def analyse (endpoint : String) (source : List Char) (transport : Transport) : Exchange :=
  let submitting := Event.submitting endpoint (Text.byteLength source)
  match transport.post (.forSource endpoint source) with
  | (.error fault, transport) =>
    ⟨.error (.transport fault), transport,
      [submitting, .requestFailed endpoint fault.message]⟩
  | (.ok reply, transport) =>
    ⟨reply.outcome, transport, [submitting, reply.event reply.outcome]⟩

/-- Send sources one after another. -/
def analyseAll (endpoint : String) : List (List Char) → Transport →
    List (Except Fault Outcome) × Transport
  | [], transport => ([], transport)
  | source :: rest, transport =>
    let exchange := analyse endpoint source transport
    let (results, transport) := analyseAll endpoint rest exchange.transport
    (exchange.result :: results, transport)

@[simp] theorem analyseAll_nil (endpoint : String) (transport : Transport) :
    analyseAll endpoint [] transport = ([], transport) := rfl

end AnalysisDesk.Service
