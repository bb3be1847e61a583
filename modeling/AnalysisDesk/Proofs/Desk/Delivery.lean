import AnalysisDesk.Proofs.Desk.SessionTraffic
import AnalysisDesk.Proofs.Desk.Work
import AnalysisDesk.Proofs.Service.Sending

/-! # Delivery of the sources
Every source that a worker sets out with reaches the service once and as it was, whatever is edited
or submitted meanwhile and whichever worker is the first to post. An `Outbox` keeps only the sources
of all workers so far, those not posted yet, and the requests that were. Each step of the traffic
makes an entry in it, and every entry keeps the outbox faithful to what was submitted. -/

namespace AnalysisDesk.Desk

open AnalysisDesk.Editor (Clipboard)
open AnalysisDesk.Service (Request Transport Outcome Fault codesOf codesOf_concat)

/-! ## Outboxes -/

/-- The sources on their way to the service. -/
structure Outbox where
  /-- The sources that workers set out with, in order. -/
  sources : List (List Char)
  /-- The sources of the workers that have not posted yet. -/
  held : List (List Char)
  /-- The requests that the service was sent, in order. -/
  posted : List Request

namespace Outbox

/-- The entries of an outbox. -/
inductive Entry (endpoint : String) (o : Outbox) : Outbox → Prop
  /-- Workers set out with sources. -/
  | start {sources : List (List Char)} (nonempty : ∀ source ∈ sources, source ≠ []) :
      Entry endpoint o { o with sources := o.sources ++ sources, held := o.held ++ sources }
  /-- Any worker posts its source. -/
  | post {before after : List (List Char)} {source : List Char}
      (here : o.held = before ++ source :: after) :
      Entry endpoint o { o with held := before ++ after
                                posted := o.posted ++ [.forSource endpoint source] }

/-- Nothing sets out and nothing is posted. -/
theorem Entry.still {endpoint : String} {o o' : Outbox} (same : o' = o) : Entry endpoint o o' := by
  have entry : Entry endpoint o _ := .start (fun source (h : source ∈ []) => nomatch h)
  rw [same]
  simpa only [List.append_nil] using entry

/-- **An outbox that is faithful** to its sources. -/
structure Faithful (endpoint : String) (o : Outbox) : Prop where
  /-- Each request carries a source to the endpoint. -/
  carries : ∀ request ∈ o.posted, ∃ source, request.Carries endpoint source
  /-- Each source is in a request or with a worker, once. -/
  once : (codesOf o.posted ++ o.held).Perm o.sources
  /-- No source is empty. -/
  nonempty : ∀ source ∈ o.sources, source ≠ []

theorem Faithful.entry {endpoint : String} {o o' : Outbox} (h : o.Faithful endpoint)
    (entry : Entry endpoint o o') : o'.Faithful endpoint := by
  obtain ⟨carries, once, nonempty⟩ := h
  cases entry with
  | @start sources more =>
    refine ⟨carries, ?_, fun source h => ?_⟩
    · have both := once.append_right sources
      rw [List.append_assoc] at both
      exact both
    · exact (List.mem_append.mp h).elim (nonempty source) (more source)
  | @post before after source here =>
    refine ⟨fun request h => ?_, ?_, nonempty⟩
    · rcases List.mem_append.mp h with h | h
      · exact carries request h
      · rw [List.mem_singleton.mp h]
        exact ⟨source, Request.carries_forSource endpoint source⟩
    · -- The source moves from its place among those held to the end of the codes.
      have moved : (codesOf o.posted ++ [source] ++ (before ++ after)).Perm
          (codesOf o.posted ++ o.held) := by
        rw [here, List.append_assoc, List.singleton_append]
        exact List.perm_middle.symm.append_left (codesOf o.posted)
      rw [← codesOf_concat o.posted endpoint source] at moved
      exact moved.trans once

/-- The codes are in the order in which the workers set out. -/
def InOrder (o : Outbox) : Prop := codesOf o.posted ++ o.held = o.sources

/-- With at most one worker at a time the order is kept. -/
theorem InOrder.entry {endpoint : String} {o o' : Outbox} (h : o.InOrder)
    (alone : o.held.length ≤ 1) (entry : Entry endpoint o o') : o'.InOrder := by
  unfold InOrder at h ⊢
  cases entry with
  | start =>
    rw [← h]
    exact (List.append_assoc _ _ _).symm
  | @post before after source here =>
    rw [here] at h alone
    rw [List.length_append, List.length_cons] at alone
    obtain rfl : before = [] := List.eq_nil_of_length_eq_zero (by omega)
    obtain rfl : after = [] := List.eq_nil_of_length_eq_zero (by omega)
    change codesOf (o.posted ++ [.forSource endpoint source]) ++ ([] ++ []) = o.sources
    rw [codesOf_concat, List.append_nil, List.append_nil]
    exact h

end Outbox

/-! ## Racing workers -/

/-- What the service at an endpoint makes of a submission while other workers post theirs. The
request is kept at the moment it is posted; which replies are left when it is answered, and which
are left later, depends on the others. -/
def racing (endpoint : String) : Answering Transport := fun transport submission result after =>
  ∃ queue, let exchange := Service.analyse endpoint submission.source { transport with queue }
    exchange.result = result ∧ { exchange.transport with queue := after.queue } = after

/-- A service without races is one of those with races. -/
theorem racing_of_answering {endpoint : String} {transport after : Transport}
    {submission : Submission} {result : Except Fault Outcome}
    (h : answering endpoint transport submission result after) :
    racing endpoint transport submission result after := by
  obtain ⟨result, rfl⟩ := h
  exact ⟨transport.queue, result, rfl⟩

/-- A worker gets through in some way. -/
theorem exists_racing (endpoint : String) (transport : Transport) (submission : Submission) :
    ∃ result after, racing endpoint transport submission result after :=
  ⟨_, _, racing_of_answering ⟨rfl, rfl⟩⟩

/-- **A worker posts its source**, once, whatever comes of it. -/
theorem requests_of_racing {endpoint : String} {transport after : Transport}
    {submission : Submission} {result : Except Fault Outcome}
    (h : racing endpoint transport submission result after) :
    after.requests = transport.requests ++ [.forSource endpoint submission.source] := by
  obtain ⟨queue, -, same⟩ := h
  rw [← same]
  exact Service.requests_analyse endpoint submission.source { transport with queue }

namespace Traffic

variable {endpoint : String} {t t' u : Traffic Transport}

/-- The outbox of the traffic. -/
def outbox (t : Traffic Transport) : Outbox where
  sources := (startedOf t.history).map (·.source)
  held := t.workers.map (·.source)
  posted := t.service.requests

/-- Notes of no worker leave the outbox alone. -/
theorem outbox_note (t : Traffic Transport) (notes : List Note) (silent : startedOf notes = []) :
    (t.note notes).outbox = t.outbox := by
  unfold outbox note
  rw [startedOf_append, silent, List.append_nil]

/-- What an input starts is added to the outbox. -/
theorem entry_take (t : Traffic Transport) (starts : Bool) (input : Input) :
    Outbox.Entry endpoint t.outbox (t.take starts input).outbox := by
  obtain ⟨notes, h⟩ := exists_local_take t starts input
  rw [← outbox_note t [.input input] rfl]
  have outbox : (t.take starts input).outbox =
      { (t.note [.input input]).outbox with
        sources := (t.note [.input input]).outbox.sources ++ (startedOf notes).map (·.source)
        held := (t.note [.input input]).outbox.held ++ (startedOf notes).map (·.source) } := by
    unfold Traffic.outbox
    rw [h.history_eq, h.workers_eq, h.service_eq, startedOf_append, List.map_append,
      List.map_append]
  rw [outbox]
  refine .start fun source here => ?_
  obtain ⟨submission, started, rfl⟩ := List.mem_map.mp here
  exact State.source_ne_nil_of_submission? (h.submission?_eq submission started)

/-- **Each step makes an entry** in the outbox. -/
theorem Step.outbox (step : Step (racing endpoint) t t') :
    Outbox.Entry endpoint t.outbox t'.outbox := by
  cases step with
  | input _ starts input => exact entry_take t starts input
  | @answer before after submission here result service answered =>
    have held : t.outbox.held =
        before.map (·.source) ++ submission.source :: after.map (·.source) := by
      unfold Traffic.outbox
      rw [here, List.map_append, List.map_cons]
    have outbox : (t.answer before after submission result service).outbox =
        { t.outbox with
          held := before.map (·.source) ++ after.map (·.source)
          posted := t.outbox.posted ++ [.forSource endpoint submission.source] } := by
      unfold Traffic.outbox
      rw [← requests_of_racing answered, ← List.map_append]
      rfl
    rw [outbox]
    exact .post held
  | arrive | drain | wait => exact .still rfl
  | drainOne | waitOne => exact .still (outbox_note _ [.received _] rfl)
  | drained => exact .still (outbox_note _ [.drained] rfl)
  | answered | timeUp => exact .still (outbox_note _ [.waited _] rfl)

/-! ## Runs -/

/-- A run in which no two workers are under way at the same time. -/
def OneByOne {σ : Type} (answers : Answering σ) : Traffic σ → Traffic σ → Prop :=
  Relation.ReflTransGen fun t t' => Step answers t t' ∧ t'.workers.length ≤ 1

variable {source : List Char} {imageUrl : Option String} {clipboard : Clipboard}
  {transport : Transport}

/-- **The outbox stays faithful** through a whole run. -/
theorem faithful_outbox (fresh : transport.requests = [])
    (run : Run (racing endpoint) (opening source imageUrl clipboard transport) t) :
    t.outbox.Faithful endpoint := by
  induction run with
  | refl =>
    refine ⟨fun request h => ?_, ?_, fun _ h => nomatch h⟩
    · have none : request ∈ transport.requests := h
      rw [fresh] at none
      cases none
    · change (codesOf transport.requests ++ []).Perm []
      rw [fresh]
      exact .nil
  | tail _ step ih => exact ih.entry step.outbox

/-- The outbox stays in order through a run with one worker at a time. -/
theorem inOrder_outbox (fresh : transport.requests = [])
    (run : OneByOne (racing endpoint) (opening source imageUrl clipboard transport) t) :
    t.outbox.InOrder := by
  suffices h : t.outbox.InOrder ∧ t.workers.length ≤ 1 from h.1
  induction run with
  | refl =>
    refine ⟨?_, Nat.zero_le 1⟩
    change codesOf transport.requests ++ [] = []
    rw [fresh]
    rfl
  | tail _ next ih =>
    obtain ⟨step, alone⟩ := next
    refine ⟨ih.1.entry ?_ step.outbox, alone⟩
    exact (List.length_map _).trans_le ih.2

/-- A worker that can be started sets out with what is to be submitted. -/
theorem submit_of_some {submission : Submission} (found : t.desk.submission? = some submission) :
    t.submit true = { t with desk := t.desk.submitted true
                             workers := t.workers ++ [submission] }.note [.started submission] := by
  unfold submit
  rw [found]
  rfl

/-- Take another text and submit it. -/
def submitText (t : Traffic Transport) (text : List Char) (now : Nat) : Traffic Transport :=
  (t.take true (.setText text)).take true (.command now .submit)

/-- **A new text is submitted as it stands**, whatever the source was before. -/
theorem workers_submitText {text : List Char} (nonempty : text ≠ []) (t : Traffic Transport)
    (now : Nat) :
    (t.submitText text now).workers = t.workers ++ [⟨t.desk.nextRequest, text⟩] ∧
      (t.submitText text now).service = t.service := by
  let noted := ((t.take true (.setText text)).note [.input (.command now .submit)]).note
    [.performed now .submit]
  have snapshot : noted.desk.surface.snapshot = text := Editor.Surface.snapshot_setText _ text
  have found : noted.desk.submission? = some ⟨t.desk.nextRequest, text⟩ := by
    rw [State.submission?_of_ne_nil (snapshot.trans_ne nonempty), snapshot]
    rfl
  have sent : t.submitText text now = _ := submit_of_some found
  rw [sent]
  exact ⟨rfl, rfl⟩

/-- **What was delivered** of the sources submitted in a run. -/
structure Delivered (endpoint : String) (u t : Traffic Transport) : Prop where
  /-- Each request is sent to the endpoint with one header, and carries some source. -/
  carries : ∀ request ∈ t.service.requests, ∃ source, request.Carries endpoint source
  /-- The codes in the requests, with the sources of the workers that have not posted yet, are the
  sources that workers set out with, each as often. -/
  once : (codesOf t.service.requests ++ t.workers.map (·.source)).Perm
    ((startedOf t.history).map (·.source))
  /-- No worker sets out without a source. -/
  nonempty : ∀ submission ∈ startedOf t.history, submission.source ≠ []
  /-- What a worker set out with is the source as the user's actions had made it by then. -/
  snapshots : (startedOf t.history).Sublist (t.actions.foldl Work.take u.work).attempts
  /-- With one worker at a time the requests are in the order of the submissions. -/
  ordered : OneByOne (racing endpoint) u t →
    codesOf t.service.requests ++ t.workers.map (·.source) = (startedOf t.history).map (·.source)
  /-- A text that replaces the source and is submitted is what the worker posts. -/
  sends : t.stance = .free → ∀ text, text ≠ [] → ∀ now,
    Run (racing endpoint) t (t.submitText text now) ∧
      ∃ submission, (t.submitText text now).workers = t.workers ++ [submission] ∧
        (∃ result after, racing endpoint (t.submitText text now).service submission result after) ∧
        ∀ result after, racing endpoint (t.submitText text now).service submission result after →
          ∃ request, after.requests = t.service.requests ++ [request] ∧
            request.Carries endpoint text

/-- **Each submitted source reaches the service once and as it was**, in whatever order things
happen. -/
theorem delivered (fresh : transport.requests = [])
    (run : Run (racing endpoint) (opening source imageUrl clipboard transport) t) :
    Delivered endpoint (opening source imageUrl clipboard transport) t := by
  obtain ⟨carries, once, nonempty⟩ := faithful_outbox fresh run
  refine ⟨carries, once, fun submission started => ?_, ?_, inOrder_outbox fresh, ?_⟩
  · exact nonempty _ (List.mem_map_of_mem started)
  · obtain ⟨inputs, actions, work⟩ := Run.work run
    have all : t.actions = inputs := actions.trans (List.nil_append inputs)
    rw [all, ← work]
    exact startedOf_sublist_attemptsOf t.history
  · intro free text nonempty now
    obtain ⟨workers, service⟩ := workers_submitText nonempty t now
    have still : (t.take true (.setText text)).stance = .free := free
    refine ⟨?_, ⟨t.desk.nextRequest, text⟩, workers, exists_racing endpoint _ _, ?_⟩
    · exact (Relation.ReflTransGen.single (.input free true (.setText text))).tail
        (.input still true (.command now .submit))
    · intro result after posted
      rw [service] at posted
      exact ⟨_, requests_of_racing posted, Request.carries_forSource endpoint text⟩

/-- A desk whose source is edited between two submissions; the second is posted first, and fails. -/
def overtaking (endpoint : String) : Traffic Transport :=
  let t := (opening ['a'] none .empty (.failing "down")).take true (.command 0 .submit)
  let t := (t.take true (.key 1 (.plain '"'))).take true (.command 2 .submit)
  t.answer [⟨1, ['a']⟩] [] ⟨2, ['"', 'a']⟩ (.error (.transport (.network "down")))
    (Service.analyse endpoint ['"', 'a'] (.failing "down")).transport

theorem overtaking_delivered :
    Delivered "http://host" (opening ['a'] none .empty (.failing "down"))
        (overtaking "http://host") ∧
      codesOf (overtaking "http://host").service.requests = [['"', 'a']] ∧
      (overtaking "http://host").workers = [⟨1, ['a']⟩] := by
  have run : Run (racing "http://host") (opening ['a'] none .empty (.failing "down"))
      (overtaking "http://host") := by
    refine .tail (.tail (.tail (.tail .refl (.input rfl true (.command 0 .submit)))
      (.input rfl true (.key 1 (.plain '"')))) (.input rfl true (.command 2 .submit)))
      (.answer rfl (racing_of_answering ⟨rfl, rfl⟩))
  exact ⟨delivered rfl run, codesOf_concat [] "http://host" ['"', 'a'], rfl⟩

end Traffic
end AnalysisDesk.Desk
