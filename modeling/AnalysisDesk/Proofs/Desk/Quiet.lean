import AnalysisDesk.Desk.Key
import AnalysisDesk.Screen.Picture

/-! # Quiet changes
Most of what the user does leaves the requests and the answers on display alone: editing, scrolling,
copying, the passing of time, another panel, a drawing. Such a change is quiet. Only a submission,
an answer and the wish to quit are not. -/

namespace AnalysisDesk.Desk

open AnalysisDesk.Editor (Surface Edit)
open AnalysisDesk.Service (Analysis Outcome)

/-- What is on display of the answers. -/
structure Shown where
  /-- The last analysis, if there was one. -/
  lastSuccess : Option Analysis
  /-- The text of the viewer of the tokens. -/
  tokens : List Char
  /-- The text of the viewer of the parse tree. -/
  tree : List Char
  /-- The complaint, if there is one. -/
  complaint : Option String

namespace State

/-- What is on display of the answers. -/
def shown (s : State) : Shown := ⟨s.lastSuccess, s.tokens.text, s.tree.text, s.complaint⟩

/-- The number of the next request and how many requests are unanswered. -/
def counters (s : State) : Nat × Nat := (s.nextRequest, s.inFlight)

/-- A change that leaves the requests, the answers on display and the wish to quit alone. -/
structure Quiet (change : State → State) : Prop where
  counters : ∀ s, (change s).counters = s.counters
  shown : ∀ s, (change s).shown = s.shown
  quitting : ∀ s, (change s).quitting = s.quitting

theorem quiet_id : Quiet id := ⟨fun _ => rfl, fun _ => rfl, fun _ => rfl⟩

theorem quiet_edit (e : Edit) : Quiet (·.edit e) := ⟨fun _ => rfl, fun _ => rfl, fun _ => rfl⟩

theorem quiet_setText (text : List Char) : Quiet (·.setText text) :=
  ⟨fun _ => rfl, fun _ => rfl, fun _ => rfl⟩

theorem quiet_tick (now : Nat) : Quiet (·.tick now) := ⟨fun _ => rfl, fun _ => rfl, fun _ => rfl⟩

theorem quiet_cyclePanel : Quiet cyclePanel := ⟨fun _ => rfl, fun _ => rfl, fun _ => rfl⟩

theorem quiet_shownIn (height : Nat) : Quiet (·.shownIn height) :=
  ⟨fun _ => rfl, fun _ => rfl, fun _ => rfl⟩

theorem quiet_drawn (width height : Nat) : Quiet (Screen.drawn · width height) :=
  ⟨fun s => (quiet_shownIn _).counters s, fun s => (quiet_shownIn _).shown s,
    fun s => (quiet_shownIn _).quitting s⟩

/-- A copy changes the editor and the status line only. -/
theorem quiet_copied (surface : Surface) (status : Option String) :
    Quiet fun s => { s with surface, status } :=
  ⟨fun _ => rfl, fun _ => rfl, fun _ => rfl⟩

/-- Scrolling moves over a text and keeps it. -/
theorem quiet_scroll (move : Scroll) : Quiet (·.scroll move) := by
  refine ⟨fun s => ?_, fun s => ?_, fun s => ?_⟩
  all_goals
    unfold scroll
    split
  all_goals simp [counters, shown]

/-! ## Changes that are not quiet -/

@[simp] theorem shown_quit (s : State) : s.quit.shown = s.shown := rfl

@[simp] theorem shown_submitted (s : State) (started : Bool) :
    (s.submitted started).shown = s.shown := rfl

@[simp] theorem quitting_submitted (s : State) (started : Bool) :
    (s.submitted started).quitting = s.quitting := rfl

@[simp] theorem counters_display (s : State) (outcome : Outcome) :
    (s.display outcome).counters = s.counters := by
  cases outcome <;> rfl

@[simp] theorem quitting_display (s : State) (outcome : Outcome) :
    (s.display outcome).quitting = s.quitting := by
  cases outcome <;> rfl

/-- Each arrival lowers the number of unanswered requests by one. -/
@[simp] theorem counters_receive (s : State) (arrival : Arrival) :
    (s.receive arrival).counters = (s.nextRequest, s.inFlight - 1) := by
  unfold receive
  split
  · rw [counters_display]
    rfl
  · rfl

@[simp] theorem quitting_receive (s : State) (arrival : Arrival) :
    (s.receive arrival).quitting = s.quitting := by
  unfold receive
  split
  · rw [quitting_display]
  · rfl

/-- The desk runs if it is not quitting and no request is unanswered. -/
theorem phase_eq_running_iff (s : State) :
    s.phase = .running ↔ s.quitting = false ∧ s.inFlight = 0 := by
  unfold phase
  cases s.quitting with
  | true => simp
  | false =>
    by_cases h : 0 < s.inFlight
    · simp [h, Nat.pos_iff_ne_zero.mp h]
    · simp [Nat.eq_zero_of_not_pos h]

/-- A submission has the number of the next request. -/
theorem id_of_submission? {s : State} {submission : Submission}
    (h : s.submission? = some submission) : submission.id = s.nextRequest := by
  unfold submission? at h
  split at h
  · cases h
  · cases h
    rfl

end State
end AnalysisDesk.Desk
