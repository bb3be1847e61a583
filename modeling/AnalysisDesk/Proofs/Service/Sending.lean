import AnalysisDesk.Proofs.Json.Syntax
import AnalysisDesk.Service.Client

/-! # What a request carries
The service reads a request's body as JSON. `Request.code?` is what it finds there, if the body is
an object with the code and nothing else in it. The code comes out as it went in, whatever characters
it is made of. A transport keeps each request it is sent, also one that it does not answer. -/

namespace AnalysisDesk.Service

open AnalysisDesk.Json

/-! ## Requests -/

/-- The code in a request's body, if the body is an object whose only member is the code. -/
def Request.code? (request : Request) : Option (List Char) :=
  match Tree.read? request.body.toList with
  | some (.object [(key, .text pieces)]) =>
    if decodeText? key = some "code" then (decodeText? pieces).map String.toList else none
  | _ => none

/-- A request that carries a source to an endpoint as JSON. -/
structure Request.Carries (request : Request) (endpoint : String) (source : List Char) : Prop where
  /-- It is sent to the endpoint. -/
  url_eq : request.url = endpoint
  /-- It has one header, which says that the body is JSON. -/
  headers_eq : request.headers = [("Content-Type", "application/json")]
  /-- The code in its body is the source. -/
  code?_eq : request.code? = some source

/-- **The code comes out as it went in.** -/
theorem Request.code?_forSource (endpoint : String) (source : List Char) :
    (Request.forSource endpoint source).code? = some source := by
  have plain : (Value.object [("code", .text (String.ofList source))]).Plain := by
    simp only [Value.Plain, PlainMembers, and_self]
  have tree : Tree.read? (requestBody source).toList =
      some (.object [(piecesOf "code", .text (piecesOf (String.ofList source)))]) :=
    Written.tree (.inl rfl) plain
  have body : (Request.forSource endpoint source).body = requestBody source := rfl
  unfold Request.code?
  rw [body, tree]
  simp only [decodeText?_piecesOf, if_pos, Option.map_some, String.toList_ofList]

/-- A request for the analysis of a source carries that source. -/
theorem Request.carries_forSource (endpoint : String) (source : List Char) :
    (Request.forSource endpoint source).Carries endpoint source :=
  ⟨rfl, rfl, code?_forSource endpoint source⟩

/-- The codes in requests, in order. -/
def codesOf (requests : List Request) : List (List Char) := requests.filterMap Request.code?

/-- The last of the codes is that of the last request. -/
theorem codesOf_concat (requests : List Request) (endpoint : String) (source : List Char) :
    codesOf (requests ++ [.forSource endpoint source]) = codesOf requests ++ [source] := by
  unfold codesOf
  rw [List.filterMap_append, List.filterMap_cons_some (Request.code?_forSource endpoint source),
    List.filterMap_nil]

/-! ## Transports -/

/-- A request is kept, whether it is answered or not. -/
theorem Transport.requests_post (transport : Transport) (request : Request) :
    (transport.post request).2.requests = transport.requests ++ [request] := by
  unfold post
  dsimp only
  cases transport.fault with
  | some cause => rfl
  | none =>
    cases transport.queue with
    | nil => rfl
    | cons reply queue => rfl

/-- An analysis does to the transport what its request does. -/
theorem transport_analyse (endpoint : String) (source : List Char) (transport : Transport) :
    (analyse endpoint source transport).transport =
      (transport.post (.forSource endpoint source)).2 := by
  unfold analyse
  split
  case h_1 fault after posted => rw [posted]
  case h_2 reply after posted => rw [posted]

/-- **Each analysis is one request**, whatever comes of it. -/
theorem requests_analyse (endpoint : String) (source : List Char) (transport : Transport) :
    (analyse endpoint source transport).transport.requests =
      transport.requests ++ [.forSource endpoint source] := by
  rw [transport_analyse, Transport.requests_post]

end AnalysisDesk.Service
