import AnalysisDesk.Proofs.Service.Sending
import Mathlib.Data.List.Forall2

/-! # One client, many analyses
A client that has sources analysed one after another meets the replies of its transport in order,
and the last of them from then on; a transport that fails, fails every time. What comes of a source
depends on its number alone, so that neither its text nor what came of the sources before it has a
say. Every source leaves its request with the transport, also one that nothing comes of. -/

namespace AnalysisDesk.Service

/-! ## The answers of a transport -/

namespace Transport

/-- What a transport answers to the request of a number, counted from now on. -/
def answer (transport : Transport) (number : Nat) : Except TransportFault Reply :=
  match transport.fault with
  | some cause => .error (.network cause)
  | none => .ok (transport.queue[number]?.getD transport.last)

/-- A request gets the first answer. -/
theorem fst_post (transport : Transport) (request : Request) :
    (transport.post request).1 = transport.answer 0 := by
  obtain ⟨queue, last, fault, requests⟩ := transport
  cases fault with
  | some cause => rfl
  | none => cases queue <;> rfl

/-- **A request uses one answer up**, so that the next ones are left. -/
theorem answer_post (transport : Transport) (request : Request) (number : Nat) :
    (transport.post request).2.answer number = transport.answer (number + 1) := by
  obtain ⟨queue, last, fault, requests⟩ := transport
  cases fault with
  | some cause => rfl
  | none =>
    -- Once the queue is used up, the last reply stays.
    cases queue <;> rfl

/-- A transport that gives replies in order answers with the one of the number, or with the last. -/
theorem answer_replying (replies : List Reply) (number : Nat) :
    (replying replies).answer number =
      .ok (replies[min number (replies.length - 1)]?.getD ⟨200, ""⟩) := by
  change Except.ok (replies.dropLast[number]?.getD (replies.getLast?.getD ⟨200, ""⟩)) = _
  rcases List.eq_nil_or_concat replies with rfl | ⟨front, last, rfl⟩
  · rfl
  rw [List.concat_eq_append, List.dropLast_concat, List.getLast?_concat, List.length_append,
    List.length_singleton, Nat.add_sub_cancel, Option.getD_some]
  by_cases queued : number < front.length
  · rw [Nat.min_eq_left (Nat.le_of_lt queued), List.getElem?_append_left queued,
      List.getElem?_eq_getElem queued, Option.getD_some, Option.getD_some]
  · have used : front.length ≤ number := Nat.le_of_not_lt queued
    rw [Nat.min_eq_right used, List.getElem?_concat_length, List.getElem?_eq_none used,
      Option.getD_none, Option.getD_some]

end Transport

/-! ## The outcomes of sources in a row -/

/-- What comes of an answer. -/
def outcomeOf : Except TransportFault Reply → Except Fault Outcome
  | .error fault => .error (.transport fault)
  | .ok reply => reply.outcome

/-- What comes of a source is what comes of the first answer. -/
theorem result_analyse (endpoint : String) (source : List Char) (transport : Transport) :
    (analyse endpoint source transport).result = outcomeOf (transport.answer 0) := by
  rw [← transport.fst_post (.forSource endpoint source)]
  unfold analyse
  split
  case h_1 fault after posted => rw [posted, outcomeOf]
  case h_2 reply after posted => rw [posted, outcomeOf]

/-- The first source goes before the others, which meet the transport as it left it. -/
theorem analyseAll_cons (endpoint : String) (source : List Char) (rest : List (List Char))
    (transport : Transport) :
    analyseAll endpoint (source :: rest) transport =
      ((analyse endpoint source transport).result ::
          (analyseAll endpoint rest (analyse endpoint source transport).transport).1,
        (analyseAll endpoint rest (analyse endpoint source transport).transport).2) := rfl

/-- **The outcomes of sources in a row** are those of the answers in a row. -/
theorem fst_analyseAll (endpoint : String) (sources : List (List Char)) (transport : Transport) :
    (analyseAll endpoint sources transport).1 =
      (List.range sources.length).map fun number => outcomeOf (transport.answer number) := by
  induction sources generalizing transport with
  | nil => rfl
  | cons source rest ih =>
    have later : (fun number => outcomeOf (transport.answer number)) ∘ Nat.succ =
        fun number => outcomeOf ((analyse endpoint source transport).transport.answer number) := by
      funext number
      rw [transport_analyse, Transport.answer_post]
      rfl
    rw [analyseAll_cons, ih, result_analyse, List.length_cons, List.range_succ_eq_map,
      List.map_cons, List.map_map, later]

/-- **Each source leaves its request**, in order. -/
theorem requests_analyseAll (endpoint : String) (sources : List (List Char))
    (transport : Transport) :
    (analyseAll endpoint sources transport).2.requests =
      transport.requests ++ sources.map (Request.forSource endpoint) := by
  induction sources generalizing transport with
  | nil => exact (List.append_nil _).symm
  | cons source rest ih =>
    rw [analyseAll_cons, ih, requests_analyse, List.append_assoc, List.map_cons,
      List.singleton_append]

/-! ## Whole conversations -/

/-- **A client's conversation with a transport** about sources in a row, when this comes of the
source of each number. -/
structure Converses (endpoint : String) (sources : List (List Char)) (transport : Transport)
    (outcome : Nat → Except Fault Outcome) : Prop where
  /-- The outcomes, one for each source. -/
  outcomes : (analyseAll endpoint sources transport).1 = (List.range sources.length).map outcome
  /-- The requests, one for each source and in the same order, each with its source. -/
  requests : List.Forall₂ (fun request source => request.Carries endpoint source)
    (analyseAll endpoint sources transport).2.requests sources
  /-- As many other sources come to the same outcomes, at any endpoint. -/
  unread : ∀ endpoint' others, others.length = sources.length →
    (analyseAll endpoint' others transport).1 = (analyseAll endpoint sources transport).1

/-- A transport that no request was sent to yet gives its answers in order. -/
theorem converses (transport : Transport) (fresh : transport.requests = []) (endpoint : String)
    (sources : List (List Char)) :
    Converses endpoint sources transport fun number => outcomeOf (transport.answer number) := by
  refine ⟨fst_analyseAll endpoint sources transport, ?_, fun endpoint' others many => ?_⟩
  · rw [requests_analyseAll, fresh, List.nil_append, List.forall₂_map_left_iff, List.forall₂_same]
    exact fun source _ => Request.carries_forSource endpoint source
  · rw [fst_analyseAll, fst_analyseAll, many]

/-- **One client, many analyses.** With replies in a list, the outcome of each source is that of the
reply with its number, or of the last one, or of an empty reply of success if there is none; with
one reply it is that of the reply, and with a fault it is that fault. All sources reach the
transport, and none of the outcomes depends on what the sources say. -/
theorem outcome_by_number (endpoint : String) (sources : List (List Char)) :
    (∀ replies : List Reply, Converses endpoint sources (.replying replies) fun number =>
      (replies[min number (replies.length - 1)]?.getD ⟨200, ""⟩).outcome) ∧
    (∀ reply : Reply, Converses endpoint sources (.always reply) fun _ => reply.outcome) ∧
    (∀ cause : String, Converses endpoint sources (.failing cause) fun _ =>
      .error (.transport (.network cause))) := by
  refine ⟨fun replies => ?_, fun reply => ?_, fun cause => ?_⟩
  · have conversation := converses (.replying replies) rfl endpoint sources
    simp only [Transport.answer_replying] at conversation
    exact conversation
  · exact converses (.always reply) rfl endpoint sources
  · exact converses (.failing cause) rfl endpoint sources

end AnalysisDesk.Service
