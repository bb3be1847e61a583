import AnalysisDesk.Proofs.Desk.Drain

/-! # Sessions are traffic
A session is one way for the traffic to go: its workers deliver in the order they set out, when they
are due, and the service is the session's own. Whatever calls are made on a session, the traffic can
do the same, so that what holds of all runs holds of all sessions. -/

namespace AnalysisDesk.Desk

open AnalysisDesk.Service (Transport Outcome)
open Traffic (Run Step)

/-- What the service at an endpoint makes of a submission. -/
def answering (endpoint : String) : Answering Transport := fun transport submission result after =>
  let exchange := Service.analyse endpoint submission.source transport
  exchange.result = result ∧ exchange.transport = after

namespace Session

/-- The traffic of a session between two calls. -/
def traffic (s : Session) (history : List Note) : Traffic Transport where
  desk := s.desk
  clipboard := s.clipboard
  service := s.transport
  workers := s.workers.map (·.submission)
  returning := []
  arrivals := s.arrivals
  stance := .free
  history

/-- The traffic of a session can run to that of another. -/
def Reaches (s s' : Session) : Prop :=
  s'.endpoint = s.endpoint ∧
    ∀ history, ∃ notes,
      Run (answering s.endpoint) (s.traffic history) (s'.traffic (history ++ notes))

theorem Reaches.refl (s : Session) : s.Reaches s := by
  refine ⟨rfl, fun history => ⟨[], ?_⟩⟩
  rw [List.append_nil]

theorem Reaches.trans {s s' s'' : Session} (first : s.Reaches s') (second : s'.Reaches s'') :
    s.Reaches s'' := by
  refine ⟨second.1.trans first.1, fun history => ?_⟩
  obtain ⟨notes, run⟩ := first.2 history
  obtain ⟨notes', run'⟩ := second.2 (history ++ notes)
  rw [first.1, List.append_assoc] at run'
  exact ⟨notes ++ notes', run.trans run'⟩

/-! ## Deliveries -/

/-- The endpoint stays through deliveries. -/
theorem endpoint_foldl_deliver (workers : List Worker) (s : Session) :
    (workers.foldl deliver s).endpoint = s.endpoint := by
  induction workers generalizing s with
  | nil => rfl
  | cons worker rest ih => exact ih _

/-- A worker that delivers gets its result and joins the queue at once. -/
theorem run_deliver (s : Session) (history : List Note) (before after : List Worker)
    (worker : Worker) :
    Run (answering s.endpoint) ({ s with workers := before ++ worker :: after }.traffic history)
      (({ s with workers := before ++ after }.deliver worker).traffic history) := by
  have here : (before ++ worker :: after).map (·.submission) =
      before.map (·.submission) ++ worker.submission :: after.map (·.submission) := by
    rw [List.map_append, List.map_cons]
  have answer : Step (answering s.endpoint)
      ({ s with workers := before ++ worker :: after }.traffic history) _ := .answer here ⟨rfl, rfl⟩
  have alone (arrival : Arrival) : [] ++ [arrival] = [] ++ arrival :: [] := rfl
  have run := (Relation.ReflTransGen.single answer).tail (.arrive (alone _))
  unfold Traffic.arrive Traffic.answer at run
  simp only [List.append_nil, ← List.map_append] at run
  exact run

/-- Workers that are due deliver one after another, while those before them are not due. -/
theorem run_deliverAll (s : Session) (history : List Note) (moment : Nat)
    (kept workers : List Worker) :
    Run (answering s.endpoint) ({ s with workers := kept ++ workers }.traffic history)
      (((workers.filter (·.due ≤ moment)).foldl deliver
        { s with workers := kept ++ workers.filter (moment < ·.due) }).traffic history) := by
  -- The workers seen so far that are not due stay before the others, in their order.
  induction workers generalizing s kept with
  | nil => exact .refl
  | cons worker rest ih =>
    by_cases due : worker.due ≤ moment
    · have taken : (worker :: rest).filter (·.due ≤ moment) =
          worker :: rest.filter (·.due ≤ moment) := List.filter_cons_of_pos (by simpa using due)
      have left : (worker :: rest).filter (moment < ·.due) = rest.filter (moment < ·.due) :=
        List.filter_cons_of_neg (by simpa using due)
      rw [taken, left, List.foldl_cons]
      exact (run_deliver s history kept rest worker).trans (ih (s.deliver worker) kept)
    · have taken : (worker :: rest).filter (·.due ≤ moment) = rest.filter (·.due ≤ moment) :=
        List.filter_cons_of_neg (by simpa using due)
      have left : (worker :: rest).filter (moment < ·.due) =
          worker :: rest.filter (moment < ·.due) := List.filter_cons_of_pos (by simpa using due)
      rw [taken, left]
      have later := ih s (kept ++ [worker])
      simpa only [List.append_assoc, List.singleton_append] using later

theorem deliverDue_reaches (s : Session) : s.Reaches s.deliverDue := by
  refine ⟨endpoint_foldl_deliver _ _, fun history => ⟨[], ?_⟩⟩
  rw [List.append_nil]
  exact run_deliverAll s history s.time [] s.workers

/-! ## Inputs -/

/-- The session once a worker has set out with a submission. -/
def sent (s : Session) (submission : Submission) : Session :=
  { s with desk := s.desk.submitted true
           workers := s.workers ++ [⟨submission, s.time + s.delay⟩] }

theorem submit_of_some {s : Session} {submission : Submission}
    (found : s.desk.submission? = some submission) :
    s.submit.1 =
      if s.prompt then ((s.sent submission).waitUntil (s.time + s.delay)).deliverDue
      else s.sent submission := by
  unfold submit
  rw [found]
  rfl

theorem submit_of_none {s : Session} (found : s.desk.submission? = none) :
    s.submit.1 = s.note [.emptySource] := by
  unfold submit
  rw [found]

/-- After a submission the worker of a prompt session delivers. -/
theorem sent_reaches (s : Session) (submission : Submission) (prompt : Bool) :
    (s.sent submission).Reaches
      (if prompt then ((s.sent submission).waitUntil (s.time + s.delay)).deliverDue
       else s.sent submission) := by
  cases prompt with
  | true => exact deliverDue_reaches ((s.sent submission).waitUntil (s.time + s.delay))
  | false => exact .refl _

theorem run_submit (s : Session) (history : List Note) :
    ∃ notes, Run (answering s.endpoint) ((s.traffic history).submit true)
      (s.submit.1.traffic (history ++ notes)) := by
  cases found : s.desk.submission? with
  | none =>
    have same : (s.traffic history).submit true = s.traffic history := by
      simp only [Traffic.submit, traffic, found]
    refine ⟨[], ?_⟩
    rw [submit_of_none found, same, List.append_nil]
    exact .refl
  | some submission =>
    have started : (s.traffic history).submit true =
        (s.sent submission).traffic (history ++ [.started submission]) := by
      simp only [Traffic.submit, traffic, found, if_pos, sent, List.map_append, List.map_cons,
        List.map_nil, Traffic.note]
    obtain ⟨notes, run⟩ := (sent_reaches s submission s.prompt).2 (history ++ [.started submission])
    refine ⟨.started submission :: notes, ?_⟩
    rw [submit_of_some found, started]
    rw [List.append_assoc] at run
    exact run

theorem endpoint_submit (s : Session) : s.submit.1.endpoint = s.endpoint := by
  cases found : s.desk.submission? with
  | none => rw [submit_of_none found]; rfl
  | some submission =>
    rw [submit_of_some found]
    exact (sent_reaches s submission s.prompt).1

theorem run_copy (s : Session) (history : List Note) (now : Nat) :
    ∃ notes, (s.traffic history).copy now = (s.copy now).traffic (history ++ notes) := by
  cases taken : s.desk.surface.copy s.clipboard now with
  | ok copied => exact ⟨[.copied now s.desk.surface.snapshot], by
      simp only [Traffic.copy, copy, traffic, taken]
      rfl⟩
  | error fault => exact ⟨[.copyFailed now fault], by
      simp only [Traffic.copy, copy, traffic, taken]
      rfl⟩

theorem endpoint_copy (s : Session) (now : Nat) : (s.copy now).endpoint = s.endpoint := by
  unfold copy
  split <;> rfl

/-- What a command does in a session, the traffic can do. -/
theorem run_perform (s : Session) (history : List Note) (now : Nat) (command : Command) :
    ∃ notes, Run (answering s.endpoint) ((s.traffic history).perform true now command)
      ((s.perform now command).traffic (history ++ notes)) := by
  cases command with
  | submit =>
    obtain ⟨notes, run⟩ := run_submit s (history ++ [.performed now .submit])
    rw [List.append_assoc] at run
    exact ⟨_, run⟩
  | copy =>
    obtain ⟨notes, same⟩ := run_copy s (history ++ [.performed now .copy]) now
    rw [List.append_assoc] at same
    refine ⟨[.performed now .copy] ++ notes, ?_⟩
    change Run _ ((s.traffic (history ++ [.performed now .copy])).copy now) ((s.copy now).traffic _)
    rw [same]
  | _ => exact ⟨[_], .refl⟩

theorem endpoint_perform (s : Session) (now : Nat) (command : Command) :
    (s.perform now command).endpoint = s.endpoint := by
  cases command with
  | submit => exact endpoint_submit s
  | copy => exact endpoint_copy s now
  | _ => rfl

/-- What a command does in a session takes one input and what follows from it. -/
theorem perform_reaches (s : Session) (now : Nat) (command : Command) :
    s.Reaches (s.perform now command) := by
  refine ⟨endpoint_perform s now command, fun history => ?_⟩
  obtain ⟨notes, run⟩ := run_perform s (history ++ [.input (.command now command)]) now command
  rw [List.append_assoc] at run
  exact ⟨_, .head (.input rfl true (.command now command)) run⟩

/-- What a key does in a session takes one input and what follows from it. -/
theorem press_reaches (s : Session) (now : Nat) (key : Key) : s.Reaches (s.press now key) := by
  cases asked : key.command? s.desk.panel with
  | none =>
    have same : s.press now key = s := by
      unfold press
      rw [asked]
    rw [same]
    exact .refl s
  | some command =>
    have same : s.press now key = s.perform now command := by
      unfold press
      rw [asked]
    refine ⟨same ▸ endpoint_perform s now command, fun history => ?_⟩
    obtain ⟨notes, run⟩ := run_perform s (history ++ [.input (.key now key)]) now command
    have pressed : (s.traffic history).take true (.key now key) =
        (s.traffic (history ++ [.input (.key now key)])).perform true now command := by
      simp only [Traffic.take, Traffic.press, Traffic.note, traffic, asked]
    rw [← pressed, List.append_assoc, ← same] at run
    exact ⟨_, .head (.input rfl true (.key now key)) run⟩

/-! ## Taking in -/

/-- A drain takes in everything that has arrived. -/
theorem run_drain {σ : Type} (answers : Answering σ) (t : Traffic σ)
    (draining : t.stance = .draining) :
    Run answers t
      { t with desk := t.desk.receiveAll t.arrivals, arrivals := []
               history := t.history ++ t.arrivals.map .received } :=
  (Traffic.within_partly (List.append_nil _).symm (.inl draining)).run

/-- A wait takes in what it can before its time is up, which may be at the first arrival missing. -/
theorem run_await {σ : Type} (answers : Answering σ) (t : Traffic σ)
    (waiting : t.stance = .waiting) :
    ∃ notes, Run answers t
      { t with desk := (t.desk.await t.arrivals.length t.arrivals).1
               arrivals := (t.desk.await t.arrivals.length t.arrivals).2.1
               stance := .free, history := t.history ++ notes } := by
  let count := min t.arrivals.length (min t.desk.inFlight t.arrivals.length)
  have queue := (List.take_append_drop count t.arrivals).symm
  have most : (t.arrivals.take count).length ≤ t.desk.inFlight := by
    rw [List.length_take]
    omega
  have taken : Run answers t _ := (Traffic.within_partly queue (.inr ⟨waiting, most⟩)).run
  rw [State.await_eq]
  -- The wait ends where it can go no further, and which way depends on the desk alone.
  by_cases quiet : (t.desk.receiveAll (t.arrivals.take count)).inFlight = 0
  · refine ⟨(t.arrivals.take count).map .received ++ [.waited true], ?_⟩
    rw [← List.append_assoc]
    exact taken.tail (.answered waiting quiet)
  · refine ⟨(t.arrivals.take count).map .received ++ [.waited false], ?_⟩
    rw [← List.append_assoc]
    exact taken.tail (.timeUp waiting (Nat.pos_of_ne_zero quiet))

/-- To process is to deliver what is due and to drain the queue. -/
theorem process_reaches (s : Session) : s.Reaches s.process.1 := by
  refine (deliverDue_reaches s).trans ⟨rfl, fun history => ?_⟩
  have drain := run_drain (answering s.deliverDue.endpoint)
    ((s.deliverDue.traffic history).turn .draining) rfl
  have drained := Relation.ReflTransGen.tail (drain.head (.drain rfl)) (.drained rfl rfl)
  refine ⟨s.deliverDue.arrivals.map .received ++ [.drained], ?_⟩
  rw [← List.append_assoc]
  exact drained

/-- To wait is to deliver what is due by then and to take in what has arrived. -/
theorem wait_reaches (s : Session) (timeout : Nat) : s.Reaches (s.wait timeout).1 := by
  unfold wait
  by_cases quiet : s.desk.inFlight = 0
  · rw [if_pos quiet]
    exact ⟨rfl, fun history => ⟨_, .head (.wait rfl) (.single (.answered rfl quiet))⟩⟩
  · rw [if_neg quiet]
    by_cases late : timeout = 0
    · rw [if_pos late]
      exact ⟨rfl, fun history =>
        ⟨_, .head (.wait rfl) (.single (.timeUp rfl (Nat.pos_of_ne_zero quiet)))⟩⟩
    · rw [if_neg late]
      let s' := s.waitUntil (min s.lastDue (s.time + timeout))
      refine (deliverDue_reaches s').trans ⟨rfl, fun history => ?_⟩
      obtain ⟨notes, await⟩ := run_await (answering s'.deliverDue.endpoint)
        ((s'.deliverDue.traffic history).turn .waiting) rfl
      exact ⟨notes, await.head (.wait rfl)⟩

/-! ## Whole sessions -/

/-- A call on a session. -/
inductive Call
  | press (now : Nat) (key : Key)
  | perform (now : Nat) (command : Command)
  | setText (text : List Char)
  | tick (now : Nat)
  | display (outcome : Outcome)
  | draw (width height : Nat)
  | shownIn (height : Nat)
  | process
  | wait (timeout : Nat)

/-- The session after a call. -/
def call (s : Session) : Call → Session
  | .press now key => s.press now key
  | .perform now command => s.perform now command
  | .setText text => s.onDesk (·.setText text)
  | .tick now => s.onDesk (·.tick now)
  | .display outcome => s.onDesk (·.display outcome)
  | .draw width height => s.onDesk (Screen.drawn · width height)
  | .shownIn height => s.onDesk (·.shownIn height)
  | .process => s.process.1
  | .wait timeout => (s.wait timeout).1

/-- The session after calls, one after another. -/
def calls (s : Session) : List Call → Session := List.foldl call s

theorem call_reaches (s : Session) (c : Call) : s.Reaches (s.call c) := by
  cases c with
  | press now key => exact press_reaches s now key
  | perform now command => exact perform_reaches s now command
  | process => exact process_reaches s
  | wait timeout => exact wait_reaches s timeout
  | setText text => exact ⟨rfl, fun _ => ⟨_, .single (.input rfl true (.setText text))⟩⟩
  | tick now => exact ⟨rfl, fun _ => ⟨_, .single (.input rfl true (.tick now))⟩⟩
  | display outcome => exact ⟨rfl, fun _ => ⟨_, .single (.input rfl true (.display outcome))⟩⟩
  | draw width height => exact ⟨rfl, fun _ => ⟨_, .single (.input rfl true (.draw width height))⟩⟩
  | shownIn height => exact ⟨rfl, fun _ => ⟨_, .single (.input rfl true (.shownIn height))⟩⟩

/-- **A session is a run of the traffic**, whatever calls it takes. -/
theorem calls_reach (s : Session) (cs : List Call) : s.Reaches (s.calls cs) := by
  induction cs generalizing s with
  | nil => exact .refl s
  | cons c rest ih => exact (call_reaches s c).trans (ih (s.call c))

end Session
end AnalysisDesk.Desk
