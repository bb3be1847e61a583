import AnalysisDesk.Proofs.Service.Reading
import AnalysisDesk.Proofs.Text.Trim

/-! # Deciding a reply
What a reply comes to is decided by what its body says, and by its status only if the body says
nothing. `Decided` goes through what a body can say: something for an analysis, which may hold one or
not; else a complaint; else neither. -/

namespace AnalysisDesk.Service

open AnalysisDesk.Json
open AnalysisDesk.Text (TrimsTo)

variable {reply : Reply}

/-- The statuses of success. -/
theorem Reply.isSuccess_eq_true_iff :
    reply.isSuccess = true ↔ 200 ≤ reply.status ∧ reply.status ≤ 299 := by
  unfold isSuccess
  simp only [Bool.and_eq_true, decide_eq_true_eq]
  omega

/-- The line for a status, with what is left of the body after trimming, if anything. -/
def statusLine (status : Nat) (kept : List Char) : String :=
  if kept = [] then "HTTP " ++ toString status
  else "HTTP " ++ toString status ++ ": " ++ String.ofList kept

/-- What is said of a reply without an analysis or a complaint quotes the trimmed body. -/
theorem Reply.statusText_eq {kept : List Char} (trims : TrimsTo reply.body.toList kept) :
    reply.statusText = statusLine reply.status kept := by
  unfold statusText statusLine
  rw [trims.trimBlank_eq]
  simp only [List.isEmpty_iff]

/-- A member for an analysis that holds none is a fault. -/
theorem outcome_of_misfit {data : Value} (found : (Record.ofBody reply.body).data = some data)
    (misfit : ∀ analysis : Analysis, ¬ analysis.HeldBy data) :
    ∃ mismatch, reply.outcome = .error (.malformed (.mismatch mismatch)) := by
  simp only [Reply.outcome, found]
  cases taken : Analysis.ofValue data with
  | error mismatch => exact ⟨mismatch, rfl⟩
  | ok analysis => exact absurd (Analysis.heldBy_of_ofValue taken) (misfit analysis)

/-- A reply of success with neither is a fault. -/
theorem outcome_of_neither_success (data : (Record.ofBody reply.body).data = none)
    (detail : (Record.ofBody reply.body).detail = none) (success : reply.isSuccess = true) :
    reply.outcome = .error (.malformed .neither) := by
  simp only [Reply.outcome, data, detail, success, if_pos]

/-- The status counts for nothing if the body has one of the two members. -/
theorem outcome_withStatus (spoken : (Record.ofBody reply.body).data ≠ none ∨
    (Record.ofBody reply.body).detail ≠ none) (status : Nat) :
    ({ reply with status } : Reply).outcome = reply.outcome := by
  unfold Reply.outcome
  simp only
  cases data : (Record.ofBody reply.body).data with
  | some v => rfl
  | none =>
    cases detail : (Record.ofBody reply.body).detail with
    | some v => rfl
    | none => exact absurd spoken (by simp [data, detail])

/-- **How a reply is decided** by what its body says. -/
structure Reply.Decided (reply : Reply) (record : Record) : Prop where
  /-- It is a success if and only if the member for an analysis holds one, whatever the complaint
  and the status. -/
  success_iff : ∀ analysis, reply.outcome = .ok (.success analysis) ↔
    ∃ data, record.data = some data ∧ analysis.HeldBy data
  /-- A member for an analysis that holds none is a fault. -/
  misfit : ∀ data, record.data = some data → (∀ analysis : Analysis, ¬ analysis.HeldBy data) →
    ∃ mismatch, reply.outcome = .error (.malformed (.mismatch mismatch))
  /-- It is no failure if there is a member for an analysis. -/
  not_failure : record.data ≠ none → ∀ detail, reply.outcome ≠ .ok (.failure detail)
  /-- Without that member, a complaint is a failure with its text. -/
  failure : ∀ detail, record.data = none → record.detail = some detail →
    reply.outcome = .ok (.failure (complaintText detail))
  /-- The status counts for nothing if there is one of the two members. -/
  status : record.data ≠ none ∨ record.detail ≠ none →
    ∀ status, ({ reply with status } : Reply).outcome = reply.outcome
  /-- With neither, a status of success is a fault. -/
  neither_success : record.data = none → record.detail = none →
    200 ≤ reply.status ∧ reply.status ≤ 299 → reply.outcome = .error (.malformed .neither)
  /-- With neither, any other status is a failure with the status and the trimmed body. -/
  neither_failure : record.data = none → record.detail = none →
    ¬ (200 ≤ reply.status ∧ reply.status ≤ 299) → ∀ kept, TrimsTo reply.body.toList kept →
    reply.outcome = .ok (.failure (statusLine reply.status kept))

/-- A reply is decided by the record of its body. -/
theorem Reply.decided_ofBody (reply : Reply) : reply.Decided (Record.ofBody reply.body) := by
  have success (analysis : Analysis) : reply.outcome = .ok (.success analysis) ↔
      ∃ data, (Record.ofBody reply.body).data = some data ∧ analysis.HeldBy data := by
    constructor
    · intro outcome
      obtain ⟨data, found, taken⟩ := data_of_success outcome
      exact ⟨data, found, Analysis.heldBy_of_ofValue taken⟩
    · rintro ⟨data, found, held⟩
      have canonical := (Record.readable_ofBody reply.body).data data found
      exact outcome_of_data found ((Analysis.ofValue_eq_ok_iff canonical).mpr held)
  refine ⟨success, fun _ => outcome_of_misfit, fun present detail failure => ?_,
    fun _ => outcome_of_detail, outcome_withStatus, fun data detail status => ?_,
    fun data detail status kept trims => ?_⟩
  · obtain ⟨data, found⟩ := Option.ne_none_iff_exists'.mp present
    -- The member holds an analysis or it does not, and neither comes to a failure.
    by_cases held : ∃ analysis : Analysis, analysis.HeldBy data
    · obtain ⟨analysis, held⟩ := held
      rw [(success analysis).mpr ⟨data, found, held⟩] at failure
      cases failure
    · obtain ⟨mismatch, fault⟩ := outcome_of_misfit found (not_exists.mp held)
      rw [fault] at failure
      cases failure
  · exact outcome_of_neither_success data detail (isSuccess_eq_true_iff.mpr status)
  · have failed : reply.isSuccess = false :=
      Bool.eq_false_iff.mpr fun success => status (isSuccess_eq_true_iff.mp success)
    rw [outcome_of_neither data detail failed, statusText_eq trims]

/-- **A reply is decided by what its body says**, and each body says just one thing. -/
theorem decided_by_body (reply : Reply) :
    ∃ record, (∀ other, Says reply.body other ↔ other = record) ∧ reply.Decided record :=
  ⟨Record.ofBody reply.body, fun _ => says_iff, reply.decided_ofBody⟩

end AnalysisDesk.Service
