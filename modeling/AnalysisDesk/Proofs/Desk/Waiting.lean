import AnalysisDesk.Proofs.Desk.SessionTraffic

/-! # Waiting in a session
A session that waits long enough for its workers does nothing but process the queue once the last of
them is due. Its wait goes by the number of unanswered requests and its processing by the queue, and
that the two come to the same is owed to the accounts, which no call can upset. -/

namespace AnalysisDesk.Desk

open Traffic (Run)

namespace Session

/-- The unanswered requests of a session are those with a worker or in the queue. -/
def Counted (s : Session) : Prop := s.desk.inFlight = s.workers.length + s.arrivals.length

/-- A session that begins. -/
def Begins (s : Session) : Prop :=
  (∃ source imageUrl, s.desk = .opening source imageUrl) ∧ s.workers = [] ∧ s.arrivals = []

/-- A session that begins runs as the traffic of a new desk, whatever calls it takes. -/
theorem Begins.exists_run {s : Session} (begins : s.Begins) (cs : List Call) :
    ∃ source imageUrl notes, Run (answering s.endpoint)
      (.opening source imageUrl s.clipboard s.transport) ((s.calls cs).traffic notes) := by
  obtain ⟨⟨source, imageUrl, desk⟩, workers, arrivals⟩ := begins
  obtain ⟨notes, run⟩ := (calls_reach s cs).2 []
  have opening : s.traffic [] = .opening source imageUrl s.clipboard s.transport := by
    unfold traffic Traffic.opening
    rw [desk, workers, arrivals]
    rfl
  rw [opening] at run
  exact ⟨source, imageUrl, [] ++ notes, run⟩

/-- **Every session counts right**, whatever calls it takes. -/
theorem counted_calls {s : Session} (begins : s.Begins) (cs : List Call) :
    (s.calls cs).Counted := by
  obtain ⟨source, imageUrl, notes, run⟩ := begins.exists_run cs
  have lengths := Traffic.inFlight_eq_lengths (Traffic.balanced run)
  unfold Counted
  simpa [traffic] using lengths

/-! ## Workers that are due -/

theorem le_foldl_max (workers : List Worker) (latest : Nat) :
    latest ≤ workers.foldl (fun latest worker => max latest worker.due) latest ∧
      ∀ worker ∈ workers,
        worker.due ≤ workers.foldl (fun latest worker => max latest worker.due) latest := by
  induction workers generalizing latest with
  | nil => exact ⟨Nat.le_refl latest, fun _ none => nomatch none⟩
  | cons first rest ih =>
    obtain ⟨least, later⟩ := ih (max latest first.due)
    refine ⟨Nat.le_trans (Nat.le_max_left _ _) least, fun worker here => ?_⟩
    rcases List.mem_cons.mp here with rfl | here
    · exact Nat.le_trans (Nat.le_max_right _ _) least
    · exact later worker here

/-- No worker is due later than the last. -/
theorem due_le_lastDue {s : Session} {worker : Worker} (here : worker ∈ s.workers) :
    worker.due ≤ s.lastDue :=
  (le_foldl_max s.workers 0).2 worker here

/-- Each delivery is one more arrival, and leaves the desk alone. -/
theorem foldl_deliver_spec (workers : List Worker) (s : Session) :
    (workers.foldl deliver s).desk = s.desk ∧
      (workers.foldl deliver s).arrivals.length = s.arrivals.length + workers.length := by
  induction workers generalizing s with
  | nil => exact ⟨rfl, rfl⟩
  | cons worker rest ih =>
    obtain ⟨desk, arrivals⟩ := ih (s.deliver worker)
    refine ⟨desk, arrivals.trans ?_⟩
    simp only [deliver, List.length_append, List.length_cons, List.length_nil]
    omega

/-- Once the last worker is due, all that is unanswered is in the queue. -/
theorem inFlight_deliverDue {s : Session} (counted : s.Counted) :
    (s.waitUntil s.lastDue).deliverDue.desk.inFlight =
      (s.waitUntil s.lastDue).deliverDue.arrivals.length := by
  have all : s.workers.filter (·.due ≤ (s.waitUntil s.lastDue).time) = s.workers := by
    refine List.filter_eq_self.mpr fun worker here => decide_eq_true ?_
    exact Nat.le_trans (due_le_lastDue here) (Nat.le_max_right _ _)
  obtain ⟨desk, arrivals⟩ := foldl_deliver_spec
    ((s.waitUntil s.lastDue).workers.filter (·.due ≤ (s.waitUntil s.lastDue).time))
    { s.waitUntil s.lastDue with
      workers := (s.waitUntil s.lastDue).workers.filter
        fun worker => (s.waitUntil s.lastDue).time < worker.due }
  unfold deliverDue
  rw [desk, arrivals]
  change s.desk.inFlight = s.arrivals.length + (s.workers.filter _).length
  rw [all, counted, Nat.add_comm]

/-! ## Waiting and processing -/

/-- A desk that waits for what is in the queue takes in the queue. -/
theorem await_of_counted {desk : State} {arrivals : List Arrival}
    (counted : desk.inFlight = arrivals.length) :
    desk.await arrivals.length arrivals = (desk.receiveAll arrivals, [], true) := by
  rw [State.await_eq, counted, Nat.min_self, Nat.min_self, List.take_length, List.drop_length,
    decide_eq_true (Nat.le_refl _)]

/-- Nothing happens in a session without workers and with an empty queue. -/
theorem process_of_idle {s : Session} (nobody : s.workers = []) (nothing : s.arrivals = []) :
    (s.waitUntil s.lastDue).process.1 = s := by
  obtain ⟨desk, clipboard, endpoint, transport, delay, prompt, time, workers, arrivals, events⟩ := s
  cases nobody
  cases nothing
  simp [process, deliverDue, waitUntil, lastDue, note, State.receiveAll]

/-- **Waiting long enough is processing later**: the whole session is left the same. -/
theorem wait_of_counted {s : Session} (counted : s.Counted) {timeout : Nat} (patient : 0 < timeout)
    (lasting : s.lastDue ≤ s.time + timeout) :
    s.wait timeout = ((s.waitUntil s.lastDue).process.1, true) := by
  unfold wait
  by_cases quiet : s.desk.inFlight = 0
  · -- Nobody is waited for, and nothing lies in the queue.
    have lengths : 0 = s.workers.length + s.arrivals.length := quiet.symm.trans counted
    have nobody : s.workers = [] := List.eq_nil_of_length_eq_zero (by omega)
    have nothing : s.arrivals = [] := List.eq_nil_of_length_eq_zero (by omega)
    rw [if_pos quiet, process_of_idle nobody nothing]
  · have until_eq : min s.lastDue (s.time + timeout) = s.lastDue := Nat.min_eq_left lasting
    rw [if_neg quiet, if_neg (Nat.ne_of_gt patient), until_eq]
    have awaited := await_of_counted (inFlight_deliverDue counted)
    simp only [awaited, process]
    simp

/-- **No call spoils that**: a session that has begun with nothing under way can wait at any time. -/
theorem wait_calls {s : Session} (begins : s.Begins) (cs : List Call) {timeout : Nat}
    (patient : 0 < timeout) (lasting : (s.calls cs).lastDue ≤ (s.calls cs).time + timeout) :
    (s.calls cs).wait timeout =
      (((s.calls cs).waitUntil (s.calls cs).lastDue).process.1, true) :=
  wait_of_counted (counted_calls begins cs) patient lasting

end Session
end AnalysisDesk.Desk
