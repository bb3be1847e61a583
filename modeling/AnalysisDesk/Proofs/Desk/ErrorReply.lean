import AnalysisDesk.Proofs.Desk.Display
import AnalysisDesk.Proofs.Service.Deciding

/-! # Error replies at the desk
A reply whose status is not one of success is decided by its body like any other. Most such replies
come to an outcome, and the desk shows it: an analysis, or a complaint in the banner. One kind is lost.
If the body has a member for an analysis that holds none, the reply comes to a fault, of which nothing
is shown, although a fault is meant for replies of success only. -/

namespace AnalysisDesk.Desk

open AnalysisDesk.Json (Value PlainMembers)
open AnalysisDesk.Service

/-- **What an error reply does to the desk** when a worker brings it back. -/
structure ErrorReceived (reply : Reply) (record : Record) (s : State) (id : Nat) : Prop where
  /-- It comes to no outcome if and only if a member for an analysis holds none. -/
  fault_iff : (∃ fault, reply.outcome = .error fault) ↔
    ∃ data, record.data = some data ∧ ∀ analysis : Analysis, ¬ analysis.HeldBy data
  /-- Then nothing on display changes, whatever else the body says. -/
  silent : (∃ fault, reply.outcome = .error fault) →
    s.receive ⟨id, reply.outcome⟩ = { s with inFlight := s.inFlight - 1 }
  /-- Any other error reply is shown, as an analysis or as a complaint in the banner. -/
  shown : (∀ fault, reply.outcome ≠ .error fault) →
    (∃ analysis, reply.outcome = .ok (.success analysis) ∧
      (s.receive ⟨id, reply.outcome⟩).lastSuccess = some analysis) ∨
    ∃ detail, reply.outcome = .ok (.failure detail) ∧
      (s.receive ⟨id, reply.outcome⟩).complaint = some detail

/-- An error reply comes to no outcome if and only if a member for an analysis holds none. -/
theorem fault_iff_misfit {reply : Reply} {record : Record} (decided : reply.Decided record)
    (failed : ¬ (200 ≤ reply.status ∧ reply.status ≤ 299)) :
    (∃ fault, reply.outcome = .error fault) ↔
      ∃ data, record.data = some data ∧ ∀ analysis : Analysis, ¬ analysis.HeldBy data := by
  constructor
  · rintro ⟨fault, outcome⟩
    cases data : record.data with
    | some v =>
      refine ⟨v, rfl, fun analysis held => ?_⟩
      rw [(decided.success_iff analysis).mpr ⟨v, data, held⟩] at outcome
      cases outcome
    | none =>
      -- Without that member an error reply is a failure, with a complaint or with a status line.
      cases detail : record.detail with
      | some v =>
        rw [decided.failure v data detail] at outcome
        cases outcome
      | none =>
        rw [decided.neither_failure data detail failed _ (Text.trimsTo_trimBlank _)] at outcome
        cases outcome
  · rintro ⟨data, found, misfit⟩
    obtain ⟨mismatch, outcome⟩ := decided.misfit data found misfit
    exact ⟨_, outcome⟩

/-- **An error reply is shown** unless its body has a member for an analysis that holds none. -/
theorem errorReceived_of_says {reply : Reply} {record : Record} (said : Says reply.body record)
    (failed : ¬ (200 ≤ reply.status ∧ reply.status ≤ 299)) (s : State) (id : Nat) :
    ErrorReceived reply record s id := by
  have decided : reply.Decided record := says_iff.mp said ▸ reply.decided_ofBody
  refine ⟨fault_iff_misfit decided failed, ?_, fun fine => ?_⟩
  · rintro ⟨fault, outcome⟩
    rw [outcome]
    exact State.receive_error s id fault
  · cases outcome : reply.outcome with
    | error fault => exact absurd outcome (fine fault)
    | ok result =>
      cases result with
      | success analysis => exact .inl ⟨analysis, rfl, rfl⟩
      | failure detail => exact .inr ⟨detail, rfl, rfl⟩

/-- What an error reply may say: a complaint beside an object that is no analysis. -/
def drownedMembers : List (String × Value) := [("data", .object []), ("detail", .text "boom")]

/-- The error reply that says so. -/
def drowned : Reply := ⟨500, (Value.object drownedMembers).toCompact⟩

/-- The record of that reply. -/
theorem ofBody_drowned : Record.ofBody drowned.body = ⟨some (.object []), some (.text "boom")⟩ := by
  have plain : PlainMembers drownedMembers := by
    simp [drownedMembers, Value.Plain, PlainMembers]
  exact ofBody_object plain (by decide) (by decide) (.inl rfl)

/-- An object without members holds no analysis. -/
theorem not_heldBy_emptyObject (analysis : Analysis) : ¬ analysis.HeldBy (.object []) := by
  rintro (⟨tokens, -⟩ | _)
  exact List.not_mem_nil tokens

theorem drowned_received :
    ErrorReceived drowned ⟨some (.object []), some (.text "boom")⟩ (.opening [] none) 1 ∧
      ((State.opening [] none).receive ⟨1, drowned.outcome⟩).complaint = none := by
  have received := errorReceived_of_says (says_iff.mpr ofBody_drowned.symm) (by decide)
    (.opening [] none) 1
  have fault := received.fault_iff.mpr ⟨.object [], rfl, not_heldBy_emptyObject⟩
  exact ⟨received, congrArg State.complaint (received.silent fault)⟩

/-- Not every error reply comes to an outcome. -/
theorem drowned_without_outcome :
    ¬ ∀ reply : Reply, ¬ (200 ≤ reply.status ∧ reply.status ≤ 299) →
      ∃ outcome, reply.outcome = .ok outcome := by
  intro every
  obtain ⟨outcome, come⟩ := every drowned (by decide)
  have found : (Record.ofBody drowned.body).data = some (.object []) :=
    congrArg Record.data ofBody_drowned
  obtain ⟨mismatch, fault⟩ := outcome_of_misfit found not_heldBy_emptyObject
  rw [fault] at come
  cases come

end AnalysisDesk.Desk
