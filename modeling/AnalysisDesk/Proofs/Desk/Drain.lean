import AnalysisDesk.Proofs.Desk.Work
import AnalysisDesk.Proofs.Desk.Accounts

/-! # Two ways to drain the queue
The desk takes in arrivals in two ways. When it processes the queue, it goes on until the queue is
found empty; when it waits, until no request is unanswered or time is up. Both take in one arrival
after another from the front, so that the desk is told by what was taken in, however that was cut up
into calls. The two loops look at different things to stop. They come to the same end once the workers
have finished, since then, and only because no request is miscounted, the unanswered requests are those
in the queue. -/

namespace AnalysisDesk.Desk

open AnalysisDesk.Editor (Clipboard)
open AnalysisDesk.Service (Outcome Fault)

/-- The inputs that were taken, in order. -/
def inputsOf (history : List Note) : List Input :=
  history.filterMap fun
    | .input input => some input
    | _ => none

@[simp] theorem inputsOf_append (history notes : List Note) :
    inputsOf (history ++ notes) = inputsOf history ++ inputsOf notes :=
  List.filterMap_append

theorem State.receiveAll_append (s : State) (first second : List Arrival) :
    s.receiveAll (first ++ second) = (s.receiveAll first).receiveAll second :=
  List.foldl_append

/-- Taking in arrivals lowers the number of unanswered requests by theirs. -/
theorem State.inFlight_receiveAll (s : State) (arrivals : List Arrival) :
    (s.receiveAll arrivals).inFlight = s.inFlight - arrivals.length := by
  induction arrivals generalizing s with
  | nil => rfl
  | cons arrival rest ih =>
    have later : (s.receiveAll (arrival :: rest)).inFlight = _ := ih (s.receive arrival)
    rw [later, State.inFlight_receive, List.length_cons]
    omega

/-- A wait takes in as many arrivals as are unanswered, as far as there are any in time. -/
theorem State.await_eq (s : State) (patience : Nat) (arrivals : List Arrival) :
    let count := min patience (min s.inFlight arrivals.length)
    s.await patience arrivals =
      (s.receiveAll (arrivals.take count), arrivals.drop count, decide (s.inFlight ≤ count)) := by
  intro count
  induction patience generalizing s arrivals with
  | zero =>
    have nothing : count = 0 := Nat.zero_min _
    rw [nothing]
    simp [await, receiveAll]
  | succ patience ih =>
    by_cases quiet : s.inFlight = 0
    · have nothing : count = 0 := by omega
      rw [nothing]
      simp [await, receiveAll, quiet]
    · cases arrivals with
      | nil => simp [count, await, receiveAll, quiet]
      | cons arrival rest =>
        have one : count = min patience (min (s.receive arrival).inFlight rest.length) + 1 := by
          rw [inFlight_receive]
          simp only [count, List.length_cons]
          omega
        have enough (n : Nat) : (s.receive arrival).inFlight ≤ n ↔ s.inFlight ≤ n + 1 := by
          rw [inFlight_receive]
          omega
        rw [one, await, if_neg quiet]
        refine (ih (s.receive arrival) rest).trans ?_
        simp only [enough, List.take_succ_cons, List.drop_succ_cons, receiveAll, List.foldl_cons]

namespace Traffic

variable {σ : Type} {answers : Answering σ} {t t' t'' u : Traffic σ}

/-! ## What was taken in -/

/-- What happened to the queue between two moments: some arrivals were taken in and some came. -/
structure Taken (t t' : Traffic σ) (taken came : List Arrival) : Prop where
  /-- Those taken in are noted. -/
  received_eq : receivedOf t'.history = receivedOf t.history ++ taken
  /-- They are all that the desk has seen. -/
  desk_eq : t'.desk = t.desk.receiveAll taken
  /-- They were the first of those in the queue and those that came. -/
  queue_eq : t.arrivals ++ came = taken ++ t'.arrivals
  /-- Those that came were brought by workers that were running. -/
  came_perm : (came.map (·.id) ++ t'.running).Perm t.running
  /-- The clipboard was left alone. -/
  clipboard_eq : t'.clipboard = t.clipboard

/-- Nothing was taken in and nothing came. -/
theorem Taken.none (received : receivedOf t'.history = receivedOf t.history)
    (desk : t'.desk = t.desk) (queue : t'.arrivals = t.arrivals)
    (running : t'.running.Perm t.running) (clipboard : t'.clipboard = t.clipboard) :
    Taken t t' [] [] := by
  refine ⟨?_, desk, ?_, running, clipboard⟩
  · rw [received, List.append_nil]
  · rw [queue, List.append_nil, List.nil_append]

/-- What happened first and what happened then. -/
theorem Taken.trans {taken came taken' came' : List Arrival} (first : Taken t t' taken came)
    (second : Taken t' t'' taken' came') : Taken t t'' (taken ++ taken') (came ++ came') := by
  refine ⟨?_, ?_, ?_, ?_, second.clipboard_eq.trans first.clipboard_eq⟩
  · rw [second.received_eq, first.received_eq, List.append_assoc]
  · rw [second.desk_eq, first.desk_eq, State.receiveAll_append]
  · rw [← List.append_assoc, first.queue_eq, List.append_assoc, second.queue_eq,
      List.append_assoc]
  · rw [List.map_append, List.append_assoc]
    exact (second.came_perm.append_left _).trans first.came_perm

/-- An input is noted as such. -/
theorem inputsOf_take (t : Traffic σ) (starts : Bool) (input : Input) :
    inputsOf (t.take starts input).history ≠ inputsOf t.history := by
  obtain ⟨notes, here⟩ := exists_local_take t starts input
  rw [here.history_eq, note, inputsOf_append, inputsOf_append]
  intro same
  have lengths := congrArg List.length same
  simp [inputsOf] at lengths

/-- A step without an input takes in one arrival, or lets one come, or does neither. -/
theorem Step.taken (step : Step answers t t')
    (undisturbed : inputsOf t'.history = inputsOf t.history) :
    ∃ taken came, Taken t t' taken came := by
  cases step with
  | input _ starts input => exact absurd undisturbed (inputsOf_take t starts input)
  | answer here _ => exact ⟨[], [], .none rfl rfl rfl (running_answer_perm here _ _) rfl⟩
  | @arrive before after arrival here =>
    have left := running_arrive_perm here
    exact ⟨[], [arrival], (List.append_nil _).symm, rfl, rfl, left.symm, rfl⟩
  | drain | wait => exact ⟨[], [], .none rfl rfl rfl (.refl _) rfl⟩
  | @drainOne _ arrival rest first | @waitOne _ _ arrival rest first =>
    refine ⟨[arrival], [], receivedOf_append .., rfl, ?_, .refl _, rfl⟩
    rw [first]
    exact List.append_nil _
  | drained | answered | timeUp =>
    refine ⟨[], [], .none ?_ rfl rfl (.refl _) rfl⟩
    exact (receivedOf_append ..).trans (List.append_nil _)

/-- A run without inputs takes in some arrivals and lets some come. -/
theorem Run.taken (run : Run answers t t')
    (undisturbed : inputsOf t'.history = inputsOf t.history) :
    ∃ taken came, Taken t t' taken came := by
  induction run with
  | refl => exact ⟨[], [], .none rfl rfl rfl (.refl _) rfl⟩
  | @tail u t' run step ih =>
    -- There was no input before the last step either, as nothing noted is ever lost.
    have before : inputsOf t.history <+: inputsOf u.history :=
      (history_prefix_of_run run).filterMap _
    have after : inputsOf u.history <+: inputsOf t'.history :=
      step.effect.history_prefix.filterMap _
    rw [undisturbed] at after
    have same : inputsOf u.history = inputsOf t.history :=
      after.eq_of_length_le before.length_le
    obtain ⟨taken, came, first⟩ := ih same
    obtain ⟨taken', came', second⟩ := step.taken (undisturbed.trans same.symm)
    exact ⟨_, _, first.trans second⟩

/-! ## Calls -/

/-- Steps during which the desk's own thread stays at one thing. -/
def Within (answers : Answering σ) (stance : Stance) : Traffic σ → Traffic σ → Prop :=
  Relation.ReflTransGen fun t t' => Step answers t t' ∧ t.stance = stance ∧ t'.stance = stance

/-- **A call**: the desk's own thread turns to one thing and stays at it until it is free again. -/
def Call (answers : Answering σ) (stance : Stance) (t t' : Traffic σ) : Prop :=
  t.stance = .free ∧ ∃ u, Within answers stance (t.turn stance) u ∧ Step answers u t' ∧
    t'.stance = .free

theorem Within.run {stance : Stance} (within : Within answers stance t u) : Run answers t u := by
  induction within with
  | refl => exact .refl
  | tail _ h ih => exact ih.tail h.1

theorem Within.stance_eq {stance : Stance} (within : Within answers stance t u)
    (here : t.stance = stance) : u.stance = stance := by
  cases within with
  | refl => exact here
  | tail _ h => exact h.2.2

/-- While its own thread is not free, the desk takes no input. -/
theorem Step.inputsOf_eq (step : Step answers t t') (busy : t.stance ≠ .free) :
    inputsOf t'.history = inputsOf t.history := by
  cases step with
  | input free => exact absurd free busy
  | drain free => exact absurd free busy
  | wait free => exact absurd free busy
  | answer | arrive => rfl
  | drainOne | waitOne | drained | answered | timeUp =>
    exact (inputsOf_append ..).trans (List.append_nil _)

theorem Within.inputsOf_eq {stance : Stance} (within : Within answers stance t u)
    (busy : stance ≠ .free) : inputsOf u.history = inputsOf t.history := by
  induction within with
  | refl => rfl
  | tail _ h ih => exact (h.1.inputsOf_eq (h.2.1 ▸ busy)).trans ih

/-- A call begins with a turn, and a busy thread ends it in one of two ways. -/
theorem Step.ends (step : Step answers u t') (busy : u.stance ≠ .free) (done : t'.stance = .free) :
    (u.stance = .draining ∧ u.arrivals = [] ∧ t' = (u.turn .free).note [.drained]) ∨
      (u.stance = .waiting ∧ t' = (u.turn .free).note [.waited (u.desk.inFlight = 0)]) := by
  cases step with
  | input free => exact absurd free busy
  | drain free => exact absurd free busy
  | wait free => exact absurd free busy
  | answer | arrive | drainOne | waitOne => exact absurd done busy
  | drained draining empty => exact .inl ⟨draining, empty, rfl⟩
  | answered waiting quiet => exact .inr ⟨waiting, by rw [decide_eq_true quiet]⟩
  | timeUp waiting unanswered =>
    exact .inr ⟨waiting, by rw [decide_eq_false (Nat.pos_iff_ne_zero.mp unanswered)]⟩

theorem Call.run {stance : Stance} (call : Call answers stance t t') (busy : stance ≠ .free) :
    Run answers t t' := by
  obtain ⟨free, u, within, step, -⟩ := call
  have turned : Step answers t (t.turn stance) := by
    cases stance with
    | free => exact absurd rfl busy
    | draining => exact .drain free
    | waiting => exact .wait free
  exact (within.run.head turned).tail step

/-- No input is taken during a call. -/
theorem Call.inputsOf_eq {stance : Stance} (call : Call answers stance t t')
    (busy : stance ≠ .free) : inputsOf t'.history = inputsOf t.history := by
  obtain ⟨free, u, within, step, -⟩ := call
  have here : u.stance ≠ .free := (within.stance_eq rfl).symm ▸ busy
  exact (step.inputsOf_eq here).trans (within.inputsOf_eq busy)

/-- What a wait came to: no request is unanswered, or time was up. -/
def Returned (t : Traffic σ) (answered : Bool) : Prop :=
  t.history.getLast? = some (.waited answered)

theorem returned_note_iff (t : Traffic σ) (answered answered' : Bool) :
    (t.note [.waited answered]).Returned answered' ↔ answered = answered' := by
  unfold Returned note
  rw [List.getLast?_concat]
  simp

/-! ## When the workers have finished -/

/-- All workers have joined the queue. -/
def Finished (t : Traffic σ) : Prop := t.workers = [] ∧ t.returning = []

/-- The traffic once the first arrivals of the queue are taken in, with the rest still there. -/
def partly (t : Traffic σ) (taken rest : List Arrival) : Traffic σ :=
  { t with desk := t.desk.receiveAll taken, arrivals := rest }.note (taken.map .received)

/-- The traffic once the whole queue is taken in, with a last note. -/
def settled (t : Traffic σ) (last : Note) : Traffic σ := (t.partly t.arrivals []).note [last]

theorem partly_nil (t : Traffic σ) : t.partly [] t.arrivals = t := note_nil t

/-- One more arrival is taken in at the end. -/
theorem receive_partly (t : Traffic σ) (taken rest : List Arrival) (arrival : Arrival) :
    (t.partly taken (arrival :: rest)).receive arrival rest =
      t.partly (taken ++ [arrival]) rest := by
  simp only [partly, receive, note, State.receiveAll_append, List.map_append, List.append_assoc]
  rfl

/-- One more arrival is taken in at the beginning. -/
theorem partly_receive (t : Traffic σ) (taken rest : List Arrival) (arrival : Arrival) :
    (t.receive arrival (taken ++ rest)).partly taken rest = t.partly (arrival :: taken) rest := by
  simp only [partly, receive, note, List.map_cons, List.append_assoc]
  rfl

/-- A busy thread without workers can only take in the first arrival. -/
theorem Step.receives (step : Step answers u t') (busy : u.stance ≠ .free)
    (stays : t'.stance = u.stance) (finished : u.Finished) :
    ∃ arrival rest, u.arrivals = arrival :: rest ∧ t' = u.receive arrival rest := by
  have nobody {α : Type} {here : List α} {before after : List α} {one : α} (empty : here = [])
      (inside : here = before ++ one :: after) : False :=
    List.append_ne_nil_of_right_ne_nil _ (List.cons_ne_nil _ _) (inside.symm.trans empty)
  cases step with
  | input free => exact absurd free busy
  | drain free => exact absurd free busy
  | wait free => exact absurd free busy
  | answer here => exact (nobody finished.1 here).elim
  | arrive here => exact (nobody finished.2 here).elim
  | drainOne _ first => exact ⟨_, _, first, rfl⟩
  | waitOne _ _ first => exact ⟨_, _, first, rfl⟩
  | drained | answered | timeUp => exact absurd stays.symm busy

/-- Without workers a busy thread takes in the queue, arrival by arrival. -/
theorem Within.eq_partly {stance : Stance} (within : Within answers stance t u)
    (busy : stance ≠ .free) (finished : t.Finished) :
    ∃ taken rest, t.arrivals = taken ++ rest ∧ u = t.partly taken rest := by
  induction within with
  | refl => exact ⟨[], t.arrivals, rfl, t.partly_nil.symm⟩
  | tail _ h ih =>
    obtain ⟨taken, rest, queue, rfl⟩ := ih
    obtain ⟨step, here, stays⟩ := h
    obtain ⟨arrival, rest', first, rfl⟩ :=
      step.receives (here.symm ▸ busy) (stays.trans here.symm) finished
    have same : rest = arrival :: rest' := first
    rw [same] at queue ⊢
    refine ⟨taken ++ [arrival], rest', ?_, receive_partly t taken rest' arrival⟩
    rw [queue, List.append_assoc, List.singleton_append]

/-- A busy thread can take in the first arrivals, when it waits at most as many as unanswered. -/
theorem within_partly {t : Traffic σ} {taken rest : List Arrival}
    (queue : t.arrivals = taken ++ rest)
    (able : t.stance = .draining ∨ t.stance = .waiting ∧ taken.length ≤ t.desk.inFlight) :
    Within answers t.stance t (t.partly taken rest) := by
  induction taken generalizing t with
  | nil =>
    have same : t.arrivals = rest := queue
    rw [← same, partly_nil]
    exact .refl
  | cons arrival taken ih =>
    have step : Step answers t (t.receive arrival (taken ++ rest)) := by
      rcases able with draining | ⟨waiting, most⟩
      · exact .drainOne draining queue
      · exact .waitOne waiting (Nat.lt_of_lt_of_le (Nat.succ_pos _) most) queue
    have still (most : (arrival :: taken).length ≤ t.desk.inFlight) :
        taken.length ≤ (t.desk.receive arrival).inFlight := by
      rw [List.length_cons] at most
      rw [State.inFlight_receive]
      omega
    have later := ih (t := t.receive arrival (taken ++ rest)) rfl
      (able.imp_right fun ⟨waiting, most⟩ => ⟨waiting, still most⟩)
    rw [partly_receive] at later
    exact .head ⟨step, rfl, rfl⟩ later

/-- The thread turns away and back. -/
theorem turn_partly (free : t.stance = .free) (stance : Stance) (taken rest : List Arrival) :
    ((t.turn stance).partly taken rest).turn .free = t.partly taken rest := by
  obtain ⟨desk, clipboard, service, workers, returning, arrivals, here, history⟩ := t
  cases free
  rfl

/-- **Processing the queue** without workers has just one end. -/
theorem call_draining_iff (free : t.stance = .free) (finished : t.Finished) :
    Call answers .draining t t' ↔ t' = t.settled .drained := by
  constructor
  · rintro ⟨-, u, within, step, done⟩
    have here : u.stance = .draining := within.stance_eq rfl
    rcases step.ends (by rw [here]; decide) done with ⟨-, empty, rfl⟩ | ⟨waiting, -⟩
    · obtain ⟨taken, rest, queue, rfl⟩ := within.eq_partly (by decide) finished
      have nothing : rest = [] := empty
      have all : t.arrivals = taken := by
        rw [nothing, List.append_nil] at queue
        exact queue
      rw [turn_partly free, ← all, nothing]
      rfl
    · rw [here] at waiting
      cases waiting
  · rintro rfl
    have queue : (t.turn .draining).arrivals = t.arrivals ++ [] := (List.append_nil _).symm
    refine ⟨free, _, within_partly queue (.inl rfl), ?_, free⟩
    have last : Step answers ((t.turn .draining).partly t.arrivals []) _ := .drained rfl rfl
    rw [turn_partly free] at last
    exact last

/-! ## Counting -/

/-- The unanswered requests are those with a worker or in the queue. -/
theorem inFlight_eq_lengths (balanced : t.ledger.Balanced) :
    t.desk.inFlight = t.workers.length + t.returning.length + t.arrivals.length := by
  have counted : t.desk.inFlight = t.running.length + t.queued.length := balanced.inFlight_eq
  rw [counted, running, queued, List.length_append, List.length_map, List.length_map,
    List.length_map]

/-- Without workers the unanswered requests are those in the queue. -/
theorem inFlight_of_finished (balanced : t.ledger.Balanced) (finished : t.Finished) :
    t.desk.inFlight = t.arrivals.length := by
  rw [inFlight_eq_lengths balanced, finished.1, finished.2]
  simp

/-- Each arrival taken in was counted, so each lowers the count by one. -/
theorem Taken.inFlight_eq {taken came : List Arrival} (h : Taken t t' taken came)
    (balanced : t.ledger.Balanced) : taken.length + t'.desk.inFlight = t.desk.inFlight := by
  have counted : t.desk.inFlight = t.running.length + t.queued.length := balanced.inFlight_eq
  have queue := congrArg List.length h.queue_eq
  have workers := h.came_perm.length_eq
  rw [List.length_append, List.length_append] at queue
  rw [List.length_append, List.length_map] at workers
  rw [queued, List.length_map] at counted
  rw [h.desk_eq, State.inFlight_receiveAll]
  omega

theorem inFlight_partly {taken rest : List Arrival} (counted : t.desk.inFlight = t.arrivals.length)
    (queue : t.arrivals = taken ++ rest) : (t.partly taken rest).desk.inFlight = rest.length := by
  have lowered : (t.partly taken rest).desk.inFlight = _ := State.inFlight_receiveAll t.desk taken
  rw [lowered, counted, queue, List.length_append, Nat.add_sub_cancel_left]

/-- **A wait** without workers comes to the same end, unless its time is up. -/
theorem call_waiting_iff (free : t.stance = .free) (finished : t.Finished)
    (counted : t.desk.inFlight = t.arrivals.length) :
    Call answers .waiting t t' ∧ t'.Returned true ↔ t' = t.settled (.waited true) := by
  constructor
  · rintro ⟨⟨-, u, within, step, done⟩, returned⟩
    have here : u.stance = .waiting := within.stance_eq rfl
    rcases step.ends (by rw [here]; decide) done with ⟨draining, -⟩ | ⟨-, rfl⟩
    · rw [here] at draining
      cases draining
    · obtain ⟨taken, rest, queue, rfl⟩ := within.eq_partly (by decide) finished
      have quiet := (returned_note_iff _ _ _).mp returned
      -- The wait stops at a counter, which is zero at the end of the queue only.
      have nothing : rest = [] := by
        rw [decide_eq_true_eq, inFlight_partly (t := t.turn .waiting) counted queue] at quiet
        exact List.eq_nil_of_length_eq_zero quiet
      have all : t.arrivals = taken := by
        rw [nothing, List.append_nil] at queue
        exact queue
      rw [quiet, turn_partly free, ← all, nothing]
      rfl
  · rintro rfl
    have queue : (t.turn .waiting).arrivals = t.arrivals ++ [] := (List.append_nil _).symm
    have quiet : ((t.turn .waiting).partly t.arrivals []).desk.inFlight = 0 :=
      inFlight_partly (t := t.turn .waiting) counted queue
    have within : Within answers .waiting (t.turn .waiting) _ :=
      within_partly queue (.inr ⟨rfl, Nat.le_of_eq counted.symm⟩)
    have last : Step answers ((t.turn .waiting).partly t.arrivals []) _ := .answered rfl quiet
    rw [turn_partly free] at last
    exact ⟨⟨free, _, within, last, free⟩, (returned_note_iff _ _ _).mpr rfl⟩

/-- A step of a wait that goes on takes in nothing or lowers the count. -/
theorem Step.lowers (step : Step answers u t') (waiting : u.stance = .waiting)
    (stays : t'.stance = .waiting) (news : receivedOf t'.history ≠ receivedOf u.history) :
    t'.desk.inFlight + 1 = u.desk.inFlight := by
  have busy {other : Stance} (here : u.stance = other) (h : other ≠ .waiting) : False :=
    h (here.symm.trans waiting)
  cases step with
  | input free => exact (busy free (by decide)).elim
  | drain free => exact (busy free (by decide)).elim
  | wait free => exact (busy free (by decide)).elim
  | drainOne draining => exact (busy draining (by decide)).elim
  | answer | arrive => exact absurd rfl news
  | @waitOne _ unanswered arrival rest first =>
    have lowered : (u.receive arrival rest).desk.inFlight = _ := u.desk.inFlight_receive arrival
    omega
  | drained | answered | timeUp => cases stays

/-! ## Both ways -/

/-- **How the two ways to drain the queue compare**, from some moment on. -/
structure DrainsAgree (answers : Answering σ) (t : Traffic σ) : Prop where
  /-- As long as no input is taken, the desk is told by the arrivals taken in, however they were cut
  up into calls; each of them lowers the number of unanswered requests by one. -/
  taken : ∀ t', Run answers t t' → inputsOf t'.history = inputsOf t.history →
    ∃ taken came, Taken t t' taken came ∧ taken.length + t'.desk.inFlight = t.desk.inFlight
  /-- So any two ways to take in the same arrivals leave the same desk. -/
  agree : ∀ t₁ t₂, Run answers t t₁ → Run answers t t₂ →
    inputsOf t₁.history = inputsOf t.history → inputsOf t₂.history = inputsOf t.history →
    receivedOf t₁.history = receivedOf t₂.history →
    t₁.desk = t₂.desk ∧ t₁.clipboard = t₂.clipboard
  /-- Once the workers have finished, processing the queue has one end, -/
  processed : t.stance = .free → t.Finished →
    ∀ t', Call answers .draining t t' ↔ t' = t.settled .drained
  /-- a wait whose time is not up has the same but for the last note, -/
  awaited : t.stance = .free → t.Finished →
    ∀ t', Call answers .waiting t t' ∧ t'.Returned true ↔ t' = t.settled (.waited true)
  /-- and there the queue is empty and no request is unanswered. -/
  settled : t.Finished → ∀ last,
    (t.settled last).arrivals = [] ∧ (t.settled last).desk.inFlight = 0
  /-- Such a wait never stands before an empty queue. -/
  ready : t.Finished → ∀ u, Within answers .waiting (t.turn .waiting) u →
    0 < u.desk.inFlight → u.arrivals ≠ []
  /-- Any wait whose time is not up has waited for all workers, and leaves nothing in the queue. -/
  answered : ∀ t', Call answers .waiting t t' → t'.Returned true →
    t'.Finished ∧ t'.arrivals = [] ∧ t'.desk.inFlight = 0
  /-- A wait whose time is up has taken in some of the first arrivals, in order, and each request
  that is unanswered then is with a worker or in the queue. -/
  timedOut : ∀ t', Call answers .waiting t t' → t'.Returned false →
    ∃ taken came, Taken t t' taken came ∧ taken <+: t.arrivals ++ came ∧
      t'.desk.inFlight = t'.workers.length + t'.returning.length + t'.arrivals.length
  /-- A wait ends: whenever it goes on after it took in an arrival, fewer requests are unanswered. -/
  lowers : ∀ u u', Within answers .waiting (t.turn .waiting) u → Step answers u u' →
    u'.stance = .waiting → receivedOf u'.history ≠ receivedOf u.history →
    u'.desk.inFlight + 1 = u.desk.inFlight

/-- Two runs without inputs that took in the same left the same desk. -/
theorem agree_of_received {t₁ t₂ : Traffic σ} (run₁ : Run answers t t₁) (run₂ : Run answers t t₂)
    (inputs₁ : inputsOf t₁.history = inputsOf t.history)
    (inputs₂ : inputsOf t₂.history = inputsOf t.history)
    (same : receivedOf t₁.history = receivedOf t₂.history) :
    t₁.desk = t₂.desk ∧ t₁.clipboard = t₂.clipboard := by
  obtain ⟨taken₁, came₁, h₁⟩ := Run.taken run₁ inputs₁
  obtain ⟨taken₂, came₂, h₂⟩ := Run.taken run₂ inputs₂
  rw [h₁.received_eq, h₂.received_eq] at same
  rw [h₁.desk_eq, h₂.desk_eq, List.append_cancel_left same]
  exact ⟨rfl, h₁.clipboard_eq.trans h₂.clipboard_eq.symm⟩

/-- A wait that is over because no request is unanswered. -/
theorem Call.inFlight_of_returned (call : Call answers .waiting t t') (returned : t'.Returned true) :
    t'.desk.inFlight = 0 := by
  obtain ⟨-, u, within, step, done⟩ := call
  have here : u.stance = .waiting := within.stance_eq rfl
  rcases step.ends (by rw [here]; decide) done with ⟨draining, -⟩ | ⟨-, rfl⟩
  · rw [here] at draining
    cases draining
  · exact decide_eq_true_eq.mp ((returned_note_iff _ _ _).mp returned)

/-- **The two ways to drain the queue agree** at every moment that a new desk can come to. -/
theorem drains_agree {source : List Char} {imageUrl : Option String} {clipboard : Clipboard}
    {service : σ} (run : Run answers (opening source imageUrl clipboard service) t) :
    DrainsAgree answers t := by
  have balance := balanced run
  have counted (finished : t.Finished) := inFlight_of_finished balance finished
  refine ⟨fun t' later inputs => ?_, fun t₁ t₂ => agree_of_received,
    fun free finished t' => call_draining_iff free finished,
    fun free finished t' => call_waiting_iff free finished (counted finished),
    fun finished last => ⟨rfl, ?_⟩, fun finished u within unanswered => ?_,
    fun t' call returned => ?_, fun t' call _ => ?_,
    fun u u' within step => step.lowers (within.stance_eq rfl)⟩
  · obtain ⟨taken, came, h⟩ := Run.taken later inputs
    exact ⟨taken, came, h, h.inFlight_eq balance⟩
  · exact inFlight_partly (counted finished) (List.append_nil _).symm
  · obtain ⟨taken, rest, queue, rfl⟩ := within.eq_partly (by decide) finished
    rw [inFlight_partly (t := t.turn .waiting) (counted finished) queue] at unanswered
    exact List.ne_nil_of_length_pos unanswered
  · have quiet := call.inFlight_of_returned returned
    have lengths := inFlight_eq_lengths (balanced_of_run (call.run (by decide)) balance)
    rw [quiet] at lengths
    have nothing {α : Type} {l : List α} (h : l.length = 0) := List.eq_nil_of_length_eq_zero h
    exact ⟨⟨nothing (by omega), nothing (by omega)⟩, nothing (by omega), quiet⟩
  · obtain ⟨taken, came, h⟩ := Run.taken (call.run (by decide)) (call.inputsOf_eq (by decide))
    exact ⟨taken, came, h, ⟨_, h.queue_eq.symm⟩,
      inFlight_eq_lengths (balanced_of_run (call.run (by decide)) balance)⟩

/-- A desk with two answers in the queue, the later request's first. -/
def answeredTwice : Traffic Unit :=
  let submission (id : Nat) : Submission := ⟨id, ['x']⟩
  let complaint : Except Fault Outcome := .ok (.failure "no")
  let fault : Except Fault Outcome := .error (.transport (.network "down"))
  let t := (opening ['x'] none .empty ()).take true (.command 0 .submit)
  let t := t.take true (.command 1 .submit)
  let t := (t.answer [submission 1] [] (submission 2) complaint ()).arrive [] [] ⟨2, complaint⟩
  (t.answer [] [] (submission 1) fault ()).arrive [] [] ⟨1, fault⟩

theorem answeredTwice_drains :
    DrainsAgree (fun _ _ _ _ => True) answeredTwice ∧ answeredTwice.desk.inFlight = 2 ∧
      Call (fun _ _ _ _ => True) .waiting answeredTwice (answeredTwice.settled (.waited true)) ∧
      (answeredTwice.settled (.waited true)).desk.complaint = some "no" := by
  have run : Run (fun _ _ _ _ => True) (opening ['x'] none .empty ()) answeredTwice := by
    refine .tail (.tail (.tail (.tail (.tail (.tail .refl
      (.input rfl true (.command 0 .submit))) (.input rfl true (.command 1 .submit)))
      (.answer rfl trivial)) (.arrive rfl)) (.answer rfl trivial)) (.arrive rfl)
  have agree := drains_agree run
  exact ⟨agree, rfl, ((agree.awaited rfl ⟨rfl, rfl⟩ _).mpr rfl).1, rfl⟩

end Traffic
end AnalysisDesk.Desk
