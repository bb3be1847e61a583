import AnalysisDesk.Desk.Key

/-! # Sessions
A desk at work: workers carry submissions to the service, each on its own, and bring back what they
got; what has arrived lies in a queue until it is taken in. A worker is due some time after it set
out. In a prompt session the desk waits for each worker before it goes on, so that arrivals queue up
in the order of their submissions. -/

namespace AnalysisDesk.Desk

open AnalysisDesk.Editor (Clipboard Edit)
open AnalysisDesk.Journal (Event)
open AnalysisDesk.Service (Transport)

/-- A worker on its way. -/
structure Worker where
  /-- What it carries. -/
  submission : Submission
  /-- When it brings back what it got. -/
  due : Nat
  deriving DecidableEq, Repr

/-- A desk at work. -/
structure Session where
  /-- What the user sees. -/
  desk : State
  /-- The clipboard that copies go to. -/
  clipboard : Clipboard
  /-- The address of the service. -/
  endpoint : String
  /-- The way to the service. -/
  transport : Transport
  /-- How long the service takes to answer. -/
  delay : Nat
  /-- Whether the desk waits for each worker. -/
  prompt : Bool
  /-- The time that has passed in waiting. -/
  time : Nat
  /-- The workers on their way, in the order they set out. -/
  workers : List Worker
  /-- What has arrived and not been taken in, in order. -/
  arrivals : List Arrival
  /-- What has been noted, in order. -/
  events : List Event

namespace Session

/-- Note events. -/
def note (s : Session) (events : List Event) : Session := { s with events := s.events ++ events }

/-! ## Workers -/

/-- A worker delivers its submission and what it gets joins the queue. -/
def deliver (s : Session) (worker : Worker) : Session :=
  let exchange := Service.analyse s.endpoint worker.submission.source s.transport
  { s with transport := exchange.transport
           arrivals := s.arrivals ++ [⟨worker.submission.id, exchange.result⟩]
           events := s.events ++ exchange.events }

/-- The workers that are due deliver, in the order they set out. -/
def deliverDue (s : Session) : Session :=
  (s.workers.filter (·.due ≤ s.time)).foldl deliver
    { s with workers := s.workers.filter fun worker => s.time < worker.due }

/-- Let time pass up to a moment. -/
def waitUntil (s : Session) (moment : Nat) : Session := { s with time := max s.time moment }

/-! ## What the user asks for -/

/-- Submit the source. An empty source is not submitted. -/
def submit (s : Session) : Session × Bool :=
  match s.desk.submission? with
  | none => (s.note [.emptySource], false)
  | some submission =>
    let worker : Worker := ⟨submission, s.time + s.delay⟩
    let s := { s with desk := s.desk.submitted true, workers := s.workers ++ [worker] }
    (if s.prompt then (s.waitUntil worker.due).deliverDue else s, true)

/-- Copy the source to the clipboard; trouble with it is shown until a copy succeeds. -/
def copy (s : Session) (now : Nat) : Session :=
  match s.desk.surface.copy s.clipboard now with
  | .ok (surface, clipboard) =>
    let s := s.note [.copied (Text.byteLength s.desk.surface.snapshot)]
    { s with desk := { s.desk with surface, status := none }, clipboard }
  | .error fault =>
    let s := s.note [.copyFailed fault.message]
    { s with desk := { s.desk with status := some fault.message } }

/-- Change the desk alone. -/
def onDesk (s : Session) (change : State → State) : Session := { s with desk := change s.desk }

/-- Do what a command asks for. -/
def perform (s : Session) (now : Nat) : Command → Session
  | .quit => s.onDesk State.quit
  | .submit => s.submit.1
  | .copy => s.copy now
  | .cyclePanel => s.onDesk State.cyclePanel
  | .edit e => s.onDesk (·.edit e)
  | .scroll move => s.onDesk (·.scroll move)

/-- Do what a key asks for. -/
def press (s : Session) (now : Nat) (key : Key) : Session :=
  match key.command? s.desk.panel with
  | none => s
  | some command => s.perform now command

/-- Do what plain character keys ask for, one after another. -/
def type (s : Session) (now : Nat) (text : List Char) : Session :=
  text.foldl (fun s c => s.press now (.plain c)) s

/-! ## Taking in -/

/-- What is noted of an arrival. -/
def arrivalEvent (arrival : Arrival) : Event :=
  match arrival.result with
  | .ok outcome => .applying arrival.id outcome.isSuccess
  | .error fault => .noOutcome arrival.id fault.message

/-- Take in everything that has arrived, and say whether there was anything. -/
def process (s : Session) : Session × Bool :=
  let s := s.deliverDue
  let s' := { s with desk := s.desk.receiveAll s.arrivals, arrivals := [] }
  (s'.note (s.arrivals.map arrivalEvent), !s.arrivals.isEmpty)

/-- The moment the last of the workers is due. -/
def lastDue (s : Session) : Nat := s.workers.foldl (fun latest worker => max latest worker.due) 0

/-- Wait until no request is unanswered, at most for a time, and say whether it came to that. -/
def wait (s : Session) (timeout : Nat) : Session × Bool :=
  if s.desk.inFlight = 0 then (s, true)
  else if timeout = 0 then (s, false)
  else
    let s := (s.waitUntil (min s.lastDue (s.time + timeout))).deliverDue
    let (desk, left, answered) := s.desk.await s.arrivals.length s.arrivals
    let taken := s.arrivals.take (s.arrivals.length - left.length)
    let s' := { s with desk, arrivals := left }
    (s'.note (taken.map arrivalEvent), answered)

end Session
end AnalysisDesk.Desk
