import AnalysisDesk.Desk.Viewer
import AnalysisDesk.Editor.Surface
import AnalysisDesk.Service.Client

/-! # State of the desk
Everything the user sees: the source being edited, the two viewers, the complaint of the service,
and how many requests are still unanswered. Answers change only what is on display; they never touch
the source. -/

namespace AnalysisDesk.Desk

open AnalysisDesk.Editor (Surface Edit)
open AnalysisDesk.Service (Analysis Outcome Fault)
open AnalysisDesk.Journal (Event)

/-- The panels that can have the keyboard. -/
inductive Panel
  | editor
  | tokens
  | tree
  deriving DecidableEq, Repr

/-- The panel that has the keyboard next. -/
def Panel.next : Panel → Panel
  | .editor => .tokens
  | .tokens => .tree
  | .tree => .editor

@[simp] theorem Panel.next_next_next (p : Panel) : p.next.next.next = p := by cases p <;> rfl

/-- What the program is doing as a whole. -/
inductive Phase
  | running
  /-- At least one request is unanswered. -/
  | analysing
  | quitting
  deriving DecidableEq, Repr

/-- The desk. -/
structure State where
  /-- The source being edited. -/
  surface : Surface
  /-- The viewer of the tokens. -/
  tokens : Viewer
  /-- The viewer of the parse tree. -/
  tree : Viewer
  /-- The panel that has the keyboard. -/
  panel : Panel
  /-- The address of an image, shown in the header. -/
  imageUrl : Option String
  /-- The last analysis, if there was one. -/
  lastSuccess : Option Analysis
  /-- The complaint on display, if there is one. -/
  complaint : Option String
  /-- The last trouble with the clipboard, if it has not gone away. -/
  status : Option String
  /-- The number of the next request. -/
  nextRequest : Nat
  /-- How many requests are unanswered. -/
  inFlight : Nat
  /-- Whether the user has asked to quit. -/
  quitting : Bool
  deriving Repr

/-- What a worker takes with it: the number of the request and the source at that moment. -/
structure Submission where
  /-- The number of the request. -/
  id : Nat
  /-- The source. -/
  source : List Char
  deriving DecidableEq, Repr

/-- What a worker brings back. -/
structure Arrival where
  /-- The number of the request. -/
  id : Nat
  /-- The outcome, or why there is none. -/
  result : Except Fault Outcome

namespace State

/-- A new desk that edits a source. -/
def opening (source : List Char) (imageUrl : Option String) : State :=
  { surface := .ofText source, tokens := .titled "Tokens", tree := .titled "AST", panel := .editor
    imageUrl, lastSuccess := none, complaint := none, status := none, nextRequest := 1
    inFlight := 0, quitting := false }

/-- What the program is doing: quitting before all, then analysing. -/
def phase (s : State) : Phase :=
  if s.quitting then .quitting else if 0 < s.inFlight then .analysing else .running

/-! ## Submitting -/

/-- What a submission would take with it; there is none of an empty source. -/
def submission? (s : State) : Option Submission :=
  if s.surface.snapshot.isEmpty then none else some ⟨s.nextRequest, s.surface.snapshot⟩

/-- The desk after a submission; the request is unanswered if a worker could be started for it. -/
def submitted (s : State) (started : Bool) : State :=
  { s with nextRequest := s.nextRequest + 1
           inFlight := if started then s.inFlight + 1 else s.inFlight }

/-! ## Applying -/

/-- Put an outcome on display. A complaint leaves the viewers as they are. -/
def display (s : State) : Outcome → State
  | .success analysis =>
    { s with tokens := s.tokens.present (.array (analysis.tokens.map .text))
             tree := s.tree.present analysis.tree
             lastSuccess := some analysis
             complaint := none }
  | .failure detail => { s with complaint := some detail }

/-- Take in what a worker brought back; without an outcome nothing on display changes. -/
def receive (s : State) (arrival : Arrival) : State :=
  let s := { s with inFlight := s.inFlight - 1 }
  match arrival.result with
  | .ok outcome => s.display outcome
  | .error _ => s

/-- Take in everything that has arrived, in order. -/
def receiveAll (s : State) (arrivals : List Arrival) : State := arrivals.foldl receive s

/-- Take in arrivals while requests are unanswered, at most so many before time is up. Gives the
desk, the arrivals left, and whether no request is unanswered. -/
def await (s : State) : Nat → List Arrival → State × List Arrival × Bool
  | 0, arrivals => (s, arrivals, s.inFlight = 0)
  | patience + 1, arrivals =>
    if s.inFlight = 0 then (s, arrivals, true)
    else match arrivals with
      | [] => (s, [], false)
      | arrival :: rest => (s.receive arrival).await patience rest

/-! ## Everything else -/

/-- Ask to quit. -/
def quit (s : State) : State := { s with quitting := true }

/-- Give the keyboard to the next panel. -/
def cyclePanel (s : State) : State := { s with panel := s.panel.next }

/-- Edit the source. -/
def edit (s : State) (e : Edit) : State := { s with surface := s.surface.edit e }

/-- Begin anew with another source. -/
def setText (s : State) (text : List Char) : State :=
  { s with surface := s.surface.setText text }

/-- Move over the lines of the viewer that has the keyboard. -/
def scroll (s : State) (move : Scroll) : State :=
  match s.panel with
  | .editor => s
  | .tokens => { s with tokens := s.tokens.move move }
  | .tree => { s with tree := s.tree.move move }

/-- Let time pass up to a moment. -/
def tick (s : State) (now : Nat) : State := { s with surface := s.surface.tick now }

/-- Note that the source was shown in a window of a height. -/
def shownIn (s : State) (height : Nat) : State := { s with surface := s.surface.shownIn height }

/-- There is nothing to submit of an empty source. -/
theorem submission?_of_eq_nil {s : State} (h : s.surface.snapshot = []) : s.submission? = none :=
  if_pos (List.isEmpty_iff.mpr h)

/-- Any other source is submitted as it stands, under the number of the next request. -/
theorem submission?_of_ne_nil {s : State} (h : s.surface.snapshot ≠ []) :
    s.submission? = some ⟨s.nextRequest, s.surface.snapshot⟩ :=
  if_neg fun empty => h (List.isEmpty_iff.mp empty)

/-- What is submitted is never empty. -/
theorem source_ne_nil_of_submission? {s : State} {submission : Submission}
    (found : s.submission? = some submission) : submission.source ≠ [] := by
  by_cases empty : s.surface.snapshot = []
  · rw [submission?_of_eq_nil empty] at found
    cases found
  · rw [submission?_of_ne_nil empty] at found
    cases found
    exact empty

@[simp] theorem surface_display (s : State) (outcome : Outcome) :
    (s.display outcome).surface = s.surface := by
  cases outcome <;> rfl

@[simp] theorem inFlight_display (s : State) (outcome : Outcome) :
    (s.display outcome).inFlight = s.inFlight := by
  cases outcome <;> rfl

@[simp] theorem surface_receive (s : State) (arrival : Arrival) :
    (s.receive arrival).surface = s.surface := by
  unfold receive
  split <;> simp

/-- Each arrival lowers the number of unanswered requests by one. -/
@[simp] theorem inFlight_receive (s : State) (arrival : Arrival) :
    (s.receive arrival).inFlight = s.inFlight - 1 := by
  unfold receive
  split <;> simp

end State
end AnalysisDesk.Desk
