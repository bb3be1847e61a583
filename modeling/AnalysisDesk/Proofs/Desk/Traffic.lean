import AnalysisDesk.Desk.Session
import AnalysisDesk.Screen.Picture
import Mathlib.Logic.Relation

/-! # Traffic between the desk and its workers
The desk at work with nothing assumed about the order of things. The desk's own thread takes inputs
while it is free; it may drain the queue, or wait until no request is unanswered, and takes in one
arrival at a time in both. Workers send their sources, get their results and join the queue at any
moment, also while the desk drains or waits. What the service makes of a source is left to a relation.
`Step` lists every single thing that can happen, and each step notes it. -/

namespace AnalysisDesk.Desk

open AnalysisDesk.Editor (Clipboard ClipboardFault)
open AnalysisDesk.Service (Outcome Fault)

/-- What the desk's own thread is doing. -/
inductive Stance
  /-- It is ready for an input. -/
  | free
  /-- It takes in arrivals until the queue is empty. -/
  | draining
  /-- It takes in arrivals until no request is unanswered or time is up. -/
  | waiting
  deriving DecidableEq, Repr

/-- What comes to the desk from outside. -/
inductive Input
  /-- A key. -/
  | key (now : Nat) (key : Key)
  /-- A command that no key stands for. -/
  | command (now : Nat) (command : Command)
  /-- Another source. -/
  | setText (text : List Char)
  /-- The passing of time. -/
  | tick (now : Nat)
  /-- An outcome that no worker brought. -/
  | display (outcome : Outcome)
  /-- A screen to draw the desk on. Where there is no drawing the program is at its end, but runs go
  on, so that what holds in all runs holds until then. -/
  | draw (width height : Nat)
  /-- A window of a height to show the source in. -/
  | shownIn (height : Nat)
  /-- The clipboard breaks, or is in order again. -/
  | clipboard (fault : Option String)

/-- What has happened. -/
inductive Note
  | input (input : Input)
  /-- A command was carried out, whether a key stood for it or not. -/
  | performed (now : Nat) (command : Command)
  /-- A worker set out with a submission. -/
  | started (submission : Submission)
  /-- No worker could be started for a submission. -/
  | unstarted (submission : Submission)
  /-- The clipboard took a text. -/
  | copied (now : Nat) (text : List Char)
  /-- The clipboard took nothing. -/
  | copyFailed (now : Nat) (fault : ClipboardFault)
  /-- An arrival was taken in. -/
  | received (arrival : Arrival)
  /-- The queue was found empty. -/
  | drained
  /-- A wait is over, with no request unanswered or not. -/
  | waited (answered : Bool)

/-- The submissions that a worker set out with, in order. -/
def startedOf (history : List Note) : List Submission :=
  history.filterMap fun
    | .started submission => some submission
    | _ => none

/-- The submissions that no worker could be started for, in order. -/
def unstartedOf (history : List Note) : List Submission :=
  history.filterMap fun
    | .unstarted submission => some submission
    | _ => none

/-- The arrivals that were taken in, in order. -/
def receivedOf (history : List Note) : List Arrival :=
  history.filterMap fun
    | .received arrival => some arrival
    | _ => none

@[simp] theorem startedOf_append (history notes : List Note) :
    startedOf (history ++ notes) = startedOf history ++ startedOf notes :=
  List.filterMap_append

@[simp] theorem unstartedOf_append (history notes : List Note) :
    unstartedOf (history ++ notes) = unstartedOf history ++ unstartedOf notes :=
  List.filterMap_append

@[simp] theorem receivedOf_append (history notes : List Note) :
    receivedOf (history ++ notes) = receivedOf history ++ receivedOf notes :=
  List.filterMap_append

/-- What a service may make of a submission: the result, and the service after it. -/
abbrev Answering (σ : Type) := σ → Submission → Except Fault Outcome → σ → Prop

/-- The desk, its workers and the queue between them. -/
structure Traffic (σ : Type) where
  /-- What the user sees. -/
  desk : State
  /-- The clipboard that copies go to. -/
  clipboard : Clipboard
  /-- The service, as far as its answers depend on it. -/
  service : σ
  /-- The submissions whose workers have no result yet. -/
  workers : List Submission
  /-- The results whose workers have not joined the queue yet. -/
  returning : List Arrival
  /-- The queue, the first arrival first. -/
  arrivals : List Arrival
  /-- What the desk's own thread is doing. -/
  stance : Stance
  /-- What has happened, in order. -/
  history : List Note

namespace Traffic

variable {σ : Type}

/-- A new desk without workers. -/
def opening (source : List Char) (imageUrl : Option String) (clipboard : Clipboard) (service : σ) :
    Traffic σ :=
  ⟨.opening source imageUrl, clipboard, service, [], [], [], .free, []⟩

/-- Note what has happened. -/
def note (t : Traffic σ) (notes : List Note) : Traffic σ := { t with history := t.history ++ notes }

/-- Change the desk alone. -/
def onDesk (t : Traffic σ) (change : State → State) : Traffic σ := { t with desk := change t.desk }

/-! ## Inputs -/

/-- Submit the source, if there is one; whether a worker starts is up to the system. -/
def submit (t : Traffic σ) (starts : Bool) : Traffic σ :=
  match t.desk.submission? with
  | none => t
  | some submission =>
    if starts then
      { t with desk := t.desk.submitted true
               workers := t.workers ++ [submission] }.note [.started submission]
    else { t with desk := t.desk.submitted false }.note [.unstarted submission]

/-- Copy the source to the clipboard; trouble with it is shown until a copy succeeds. -/
def copy (t : Traffic σ) (now : Nat) : Traffic σ :=
  match t.desk.surface.copy t.clipboard now with
  | .ok (surface, clipboard) =>
    { t with desk := { t.desk with surface, status := none }
             clipboard }.note [.copied now t.desk.surface.snapshot]
  | .error fault =>
    { t with desk := { t.desk with status := some fault.message } }.note [.copyFailed now fault]

/-- Do what a command asks for. -/
def perform (t : Traffic σ) (starts : Bool) (now : Nat) (command : Command) : Traffic σ :=
  let t := t.note [.performed now command]
  match command with
  | .quit => t.onDesk State.quit
  | .submit => t.submit starts
  | .copy => t.copy now
  | .cyclePanel => t.onDesk State.cyclePanel
  | .edit e => t.onDesk (·.edit e)
  | .scroll move => t.onDesk (·.scroll move)

/-- Do what a key asks for. -/
def press (t : Traffic σ) (starts : Bool) (now : Nat) (key : Key) : Traffic σ :=
  match key.command? t.desk.panel with
  | none => t
  | some command => t.perform starts now command

/-- Take an input. -/
def take (t : Traffic σ) (starts : Bool) (input : Input) : Traffic σ :=
  let t := t.note [.input input]
  match input with
  | .key now key => t.press starts now key
  | .command now command => t.perform starts now command
  | .setText text => t.onDesk (·.setText text)
  | .tick now => t.onDesk (·.tick now)
  | .display outcome => t.onDesk (·.display outcome)
  | .draw width height => t.onDesk (Screen.drawn · width height)
  | .shownIn height => t.onDesk (·.shownIn height)
  | .clipboard fault => { t with clipboard := { t.clipboard with fault } }

/-! ## Steps -/

/-- Take in an arrival, which leaves the rest of the queue. -/
def receive (t : Traffic σ) (arrival : Arrival) (rest : List Arrival) : Traffic σ :=
  { t with desk := t.desk.receive arrival, arrivals := rest }.note [.received arrival]

/-- A worker gets the result of its submission. -/
def answer (t : Traffic σ) (before after : List Submission) (submission : Submission)
    (result : Except Fault Outcome) (service : σ) : Traffic σ :=
  { t with workers := before ++ after, service
           returning := t.returning ++ [⟨submission.id, result⟩] }

/-- A worker joins the queue with its result. -/
def arrive (t : Traffic σ) (before after : List Arrival) (arrival : Arrival) : Traffic σ :=
  { t with returning := before ++ after, arrivals := t.arrivals ++ [arrival] }

/-- The desk's own thread turns to something else. -/
def turn (t : Traffic σ) (stance : Stance) : Traffic σ := { t with stance }

/-- **Everything that can happen**, one thing at a time. -/
inductive Step (answers : Answering σ) : Traffic σ → Traffic σ → Prop
  /-- An input is taken. -/
  | input {t : Traffic σ} (free : t.stance = .free) (starts : Bool) (input : Input) :
      Step answers t (t.take starts input)
  /-- Any worker gets its result. -/
  | answer {t : Traffic σ} {before after : List Submission} {submission : Submission}
      (here : t.workers = before ++ submission :: after) {result : Except Fault Outcome}
      {service : σ} (answered : answers t.service submission result service) :
      Step answers t (t.answer before after submission result service)
  /-- Any worker that has its result joins the queue. -/
  | arrive {t : Traffic σ} {before after : List Arrival} {arrival : Arrival}
      (here : t.returning = before ++ arrival :: after) :
      Step answers t (t.arrive before after arrival)
  /-- The desk begins to drain the queue. -/
  | drain {t : Traffic σ} (free : t.stance = .free) : Step answers t (t.turn .draining)
  /-- The desk begins to wait. -/
  | wait {t : Traffic σ} (free : t.stance = .free) : Step answers t (t.turn .waiting)
  /-- A drain takes in the first arrival. -/
  | drainOne {t : Traffic σ} (draining : t.stance = .draining) {arrival : Arrival}
      {rest : List Arrival} (first : t.arrivals = arrival :: rest) :
      Step answers t (t.receive arrival rest)
  /-- A wait takes in the first arrival, as long as a request is unanswered. -/
  | waitOne {t : Traffic σ} (waiting : t.stance = .waiting) (unanswered : 0 < t.desk.inFlight)
      {arrival : Arrival} {rest : List Arrival} (first : t.arrivals = arrival :: rest) :
      Step answers t (t.receive arrival rest)
  /-- A drain ends at an empty queue. -/
  | drained {t : Traffic σ} (draining : t.stance = .draining) (empty : t.arrivals = []) :
      Step answers t ((t.turn .free).note [.drained])
  /-- A wait ends once no request is unanswered. -/
  | answered {t : Traffic σ} (waiting : t.stance = .waiting) (quiet : t.desk.inFlight = 0) :
      Step answers t ((t.turn .free).note [.waited true])
  /-- A wait ends at any moment, when its time is up. -/
  | timeUp {t : Traffic σ} (waiting : t.stance = .waiting) (unanswered : 0 < t.desk.inFlight) :
      Step answers t ((t.turn .free).note [.waited false])

/-- A run of steps. -/
abbrev Run (answers : Answering σ) : Traffic σ → Traffic σ → Prop :=
  Relation.ReflTransGen (Step answers)

end Traffic
end AnalysisDesk.Desk
