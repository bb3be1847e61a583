import AnalysisDesk.Proofs.Desk.Effect

/-! # The accounts of the requests
Every request that was ever numbered is in exactly one place: with a worker, in the queue, taken in,
or given up because no worker could be started. The counter of unanswered requests is the number of
those in the first two places. A `Ledger` keeps only the numbers of the requests and the counter; each
step of the traffic makes one of a few entries in it, and the balance is kept by every entry. -/

namespace AnalysisDesk.Desk

open AnalysisDesk.Editor (Clipboard)
open AnalysisDesk.Service (Outcome Fault)

/-! ## Ledgers -/

/-- The numbers of the requests by their places, and the counters that the desk keeps. -/
structure Ledger where
  /-- The number of the next request. -/
  next : Nat
  /-- How many requests the desk holds to be unanswered. -/
  inFlight : Nat
  /-- The requests that a worker has. -/
  running : List Nat
  /-- The requests in the queue. -/
  queued : List Nat
  /-- The requests whose arrivals were taken in. -/
  applied : List Nat
  /-- The requests that no worker could be started for. -/
  failed : List Nat
  /-- The requests that a worker set out with. -/
  started : List Nat

namespace Ledger

/-- All requests, by their places. -/
def requests (l : Ledger) : List Nat := l.running ++ l.queued ++ l.applied ++ l.failed

/-- The entries of a ledger. -/
inductive Entry : Ledger → Ledger → Prop
  /-- Nothing changes. -/
  | none (l : Ledger) : Entry l l
  /-- A worker sets out with the next request. -/
  | start {l : Ledger} {running : List Nat} (joined : running.Perm (l.next :: l.running)) :
      Entry l { l with next := l.next + 1, inFlight := l.inFlight + 1, running
                       started := l.started ++ [l.next] }
  /-- No worker can be started for the next request. -/
  | fail (l : Ledger) : Entry l { l with next := l.next + 1, failed := l.failed ++ [l.next] }
  /-- Workers change their order. -/
  | reorder {l : Ledger} {running : List Nat} (same : running.Perm l.running) :
      Entry l { l with running }
  /-- A worker's request joins the queue. -/
  | arrive {l : Ledger} {id : Nat} {running : List Nat} (left : l.running.Perm (id :: running)) :
      Entry l { l with running, queued := l.queued ++ [id] }
  /-- The first request of the queue is taken in. -/
  | apply {l : Ledger} {id : Nat} {queued : List Nat} (first : l.queued = id :: queued) :
      Entry l { l with inFlight := l.inFlight - 1, queued, applied := l.applied ++ [id] }

/-- **The balance** of a ledger. -/
structure Balanced (l : Ledger) : Prop where
  /-- The unanswered requests are those with a worker or in the queue. -/
  inFlight_eq : l.inFlight = l.running.length + l.queued.length
  /-- A request that a worker set out with is in one of three places. -/
  started_perm : l.started.Perm (l.running ++ l.queued ++ l.applied)
  /-- The requests are the numbers given out so far, each once. -/
  requests_perm : l.requests.Perm (List.range' 1 (l.next - 1))
  /-- Numbers begin at one. -/
  one_le_next : 1 ≤ l.next

/-- An empty ledger is balanced. -/
theorem Balanced.opening : Balanced ⟨1, 0, [], [], [], [], []⟩ := by
  refine ⟨rfl, .nil, .nil, Nat.le_refl 1⟩

/-- A new number is the last of the numbers given out. -/
theorem range'_succ {next : Nat} (h : 1 ≤ next) :
    List.range' 1 (next + 1 - 1) = List.range' 1 (next - 1) ++ [next] := by
  obtain ⟨n, rfl⟩ : ∃ n, next = n + 1 := ⟨next - 1, by omega⟩
  rw [Nat.add_sub_cancel, Nat.add_sub_cancel, List.range'_concat, Nat.one_mul, Nat.add_comm 1 n]

/-- **Every entry keeps the balance.** -/
theorem Balanced.entry {l l' : Ledger} (h : l.Balanced) (entry : Entry l l') : l'.Balanced := by
  obtain ⟨hcount, hstarted, hrequests, hnext⟩ := h
  unfold requests at hrequests
  cases entry with
  | none => exact ⟨hcount, hstarted, hrequests, hnext⟩
  | start joined =>
    -- The new number joins those with a worker, at whatever place among them.
    refine ⟨?_, ?_, ?_, Nat.le_succ_of_le hnext⟩
    · have hlength := joined.length_eq
      rw [List.length_cons] at hlength
      simp only [hcount, hlength]
      omega
    · -- Both sides have each number as often, which is a sum over the places.
      refine (hstarted.append_right [l.next]).trans ?_
      refine List.perm_iff_count.mpr fun id => ?_
      have hid := joined.count_eq id
      simp only [List.count_append, List.count_cons, List.count_nil] at hid ⊢
      omega
    · rw [range'_succ hnext]
      refine List.Perm.trans ?_ (hrequests.append_right [l.next])
      refine List.perm_iff_count.mpr fun id => ?_
      have hid := joined.count_eq id
      simp only [requests, List.count_append, List.count_cons, List.count_nil] at hid ⊢
      omega
  | fail =>
    refine ⟨hcount, hstarted, ?_, Nat.le_succ_of_le hnext⟩
    rw [range'_succ hnext]
    unfold requests
    rw [← List.append_assoc]
    exact hrequests.append_right [l.next]
  | reorder same =>
    refine ⟨?_, ?_, ?_, hnext⟩
    · rw [same.length_eq]
      exact hcount
    · exact hstarted.trans (((same.symm.append_right _).append_right _))
    · exact (((same.append_right _).append_right _).append_right _).trans hrequests
  | arrive left =>
    refine ⟨?_, ?_, ?_, hnext⟩
    · have hlength := left.length_eq
      simp only [List.length_cons, List.length_append, List.length_nil] at hlength ⊢
      omega
    · refine hstarted.trans (List.perm_iff_count.mpr fun n => ?_)
      have hid := left.count_eq n
      simp only [List.count_append, List.count_cons, List.count_nil] at hid ⊢
      omega
    · refine List.Perm.trans (List.perm_iff_count.mpr fun n => ?_) hrequests
      have hid := left.count_eq n
      simp only [requests, List.count_append, List.count_cons, List.count_nil] at hid ⊢
      omega
  | apply first =>
    -- The queue is not empty here, so the counter is not zero and goes down by one.
    rw [first] at hcount hstarted hrequests
    refine ⟨?_, ?_, ?_, hnext⟩
    · simp only [hcount, List.length_cons]
      omega
    · refine hstarted.trans (List.perm_iff_count.mpr fun n => ?_)
      simp only [List.count_append, List.count_cons, List.count_nil]
      omega
    · refine List.Perm.trans (List.perm_iff_count.mpr fun n => ?_) hrequests
      simp only [requests, List.count_append, List.count_cons, List.count_nil]
      omega

end Ledger

/-! ## The ledger of the traffic -/

namespace Traffic

variable {σ : Type} {answers : Answering σ} {t t' : Traffic σ}

/-- The numbers of the submissions whose workers have not joined the queue. -/
def running (t : Traffic σ) : List Nat := t.workers.map (·.id) ++ t.returning.map (·.id)

/-- The numbers of the arrivals in the queue. -/
def queued (t : Traffic σ) : List Nat := t.arrivals.map (·.id)

/-- The numbers of the arrivals that were taken in. -/
def applied (t : Traffic σ) : List Nat := (receivedOf t.history).map (·.id)

/-- The numbers of the submissions that no worker could be started for. -/
def failed (t : Traffic σ) : List Nat := (unstartedOf t.history).map (·.id)

/-- The numbers of the submissions that a worker set out with. -/
def started (t : Traffic σ) : List Nat := (startedOf t.history).map (·.id)

/-- The ledger of the traffic. -/
def ledger (t : Traffic σ) : Ledger where
  next := t.desk.counters.1
  inFlight := t.desk.counters.2
  running := t.running
  queued := t.queued
  applied := t.applied
  failed := t.failed
  started := t.started

/-- What notes add to the ledger. -/
theorem ledger_note (t : Traffic σ) (notes : List Note) :
    (t.note notes).ledger =
      { t.ledger with applied := t.applied ++ (receivedOf notes).map (·.id)
                      failed := t.failed ++ (unstartedOf notes).map (·.id)
                      started := t.started ++ (startedOf notes).map (·.id) } := by
  simp only [ledger, running, queued, applied, failed, started, note, receivedOf_append,
    unstartedOf_append, startedOf_append, List.map_append]

/-- What a note adds to the ledger after silent notes. -/
theorem ledger_note_concat (t : Traffic σ) {notes : List Note} (silent : Silent notes) (n : Note) :
    (t.note (notes ++ [n])).ledger =
      { t.ledger with applied := t.applied ++ (receivedOf [n]).map (·.id)
                      failed := t.failed ++ (unstartedOf [n]).map (·.id)
                      started := t.started ++ (startedOf [n]).map (·.id) } := by
  rw [ledger_note, silent.receivedOf_concat, silent.unstartedOf_concat, silent.startedOf_concat]

/-- Notes of none of the submissions and arrivals add nothing to the ledger. -/
theorem ledger_note_of_nil {notes : List Note} (hs : startedOf notes = [])
    (hu : unstartedOf notes = []) (hr : receivedOf notes = []) :
    (t.note notes).ledger = t.ledger := by
  rw [ledger_note, hs, hu, hr]
  simp only [List.map_nil, List.append_nil]
  rfl

/-- A change that keeps the counters leaves the ledger alone. -/
theorem ledger_onDesk {change : State → State}
    (counters : (change t.desk).counters = t.desk.counters) :
    (t.onDesk change).ledger = t.ledger := by
  unfold ledger onDesk
  simp only [counters]
  rfl

/-- A worker that gets its result is one of those that were running, and still is. -/
theorem running_answer_perm {before after : List Submission} {submission : Submission}
    (here : t.workers = before ++ submission :: after) (result : Except Fault Outcome)
    (service : σ) : (t.answer before after submission result service).running.Perm t.running := by
  unfold running answer
  rw [here]
  refine List.perm_iff_count.mpr fun id => ?_
  simp only [List.map_append, List.map_cons, List.map_nil, List.count_append, List.count_cons,
    List.count_nil]
  omega

/-- A worker that joins the queue was one of those running, at whatever place among them. -/
theorem running_arrive_perm {before after : List Arrival} {arrival : Arrival}
    (here : t.returning = before ++ arrival :: after) :
    t.running.Perm (arrival.id :: (t.arrive before after arrival).running) := by
  unfold running arrive
  rw [here, List.map_append, List.map_cons, List.map_append, ← List.append_assoc,
    ← List.append_assoc]
  exact List.perm_middle

/-- **Each effect makes an entry** in the ledger. -/
theorem Effect.entry (effect : Effect t t') : Ledger.Entry t.ledger t'.ledger := by
  cases effect with
  | @quiet change quiet clipboard stance notes silent =>
    have same : (t.onDesk change).ledger = t.ledger := ledger_onDesk (quiet.counters _)
    rw [ledger_note_of_nil silent.startedOf_eq silent.unstartedOf_eq silent.receivedOf_eq]
    exact same ▸ .none _
  | quit silent now =>
    rw [ledger_note_of_nil (silent.startedOf_concat _) (silent.unstartedOf_concat _)
      (silent.receivedOf_concat _)]
    exact .none t.ledger
  | displayed outcome =>
    rw [ledger_note_of_nil rfl rfl rfl, ledger_onDesk (State.counters_display _ _)]
    exact .none t.ledger
  | @started notes silent submission next =>
    -- The new worker stands between those without a result and those with one.
    have joined : ((t.workers ++ [submission]).map (·.id) ++ t.returning.map (·.id)).Perm
        (t.desk.nextRequest :: t.running) := by
      rw [← next, List.map_append, List.append_assoc]
      exact List.perm_middle
    have entry := Ledger.Entry.start (l := t.ledger) joined
    rw [ledger_note_concat _ silent]
    simp only [startedOf, unstartedOf, receivedOf, List.filterMap_cons, List.filterMap_nil,
      List.map_cons, List.map_nil, List.append_nil, next]
    exact entry
  | @unstarted notes silent submission next =>
    have entry := Ledger.Entry.fail t.ledger
    rw [ledger_note_concat _ silent]
    simp only [startedOf, unstartedOf, receivedOf, List.filterMap_cons, List.filterMap_nil,
      List.map_cons, List.map_nil, List.append_nil, next]
    exact entry
  | answered here result service =>
    exact .reorder (l := t.ledger) (running_answer_perm here result service)
  | @arrived before after arrival here =>
    have queued : (t.arrivals ++ [arrival]).map (·.id) = t.queued ++ [arrival.id] :=
      List.map_append
    have entry := Ledger.Entry.arrive (l := t.ledger) (running_arrive_perm here)
    unfold ledger Traffic.queued arrive
    simp only [queued]
    exact entry
  | @received arrival rest first =>
    have first' : t.ledger.queued = arrival.id :: rest.map (·.id) := by
      change t.arrivals.map (·.id) = _
      rw [first, List.map_cons]
    have entry := Ledger.Entry.apply first'
    unfold receive
    rw [ledger_note]
    simp only [ledger, State.counters_receive, startedOf, unstartedOf, receivedOf,
      List.filterMap_cons, List.filterMap_nil, List.map_cons, List.map_nil, List.append_nil]
    exact entry

/-- A new desk's ledger is empty. -/
theorem ledger_opening (source : List Char) (imageUrl : Option String) (clipboard : Clipboard)
    (service : σ) :
    (opening source imageUrl clipboard service).ledger = ⟨1, 0, [], [], [], [], []⟩ := rfl

/-- The balance is kept by every run. -/
theorem balanced_of_run (run : Run answers t t') (h : t.ledger.Balanced) : t'.ledger.Balanced := by
  induction run with
  | refl => exact h
  | tail _ step ih => exact ih.entry step.effect.entry

/-- **The accounts balance** at every moment. -/
theorem balanced {source : List Char} {imageUrl : Option String} {clipboard : Clipboard}
    {service : σ} (run : Run answers (opening source imageUrl clipboard service) t) :
    t.ledger.Balanced := by
  refine balanced_of_run run ?_
  rw [ledger_opening]
  exact .opening

/-! ## The wish to quit -/

/-- The user has asked to quit. -/
def QuitAsked (history : List Note) : Prop := ∃ now, Note.performed now .quit ∈ history

theorem quitAsked_append (history notes : List Note) :
    QuitAsked (history ++ notes) ↔ QuitAsked history ∨ QuitAsked notes := by
  unfold QuitAsked
  simp only [List.mem_append, exists_or]

theorem not_quitAsked_of_silent {notes : List Note} (silent : Silent notes) :
    ¬ QuitAsked notes := by
  rintro ⟨now, h⟩
  cases silent _ h

/-- The desk is quitting if and only if the user has asked for it. -/
def QuitsWhenAsked (t : Traffic σ) : Prop := t.desk.quitting = true ↔ QuitAsked t.history

theorem quitsWhenAsked_note {change : State → State}
    (quitting : ∀ s, (change s).quitting = s.quitting)
    (h : t.QuitsWhenAsked) {notes : List Note} (unasked : ¬ QuitAsked notes) :
    ((t.onDesk change).note notes).QuitsWhenAsked := by
  change (change t.desk).quitting = true ↔ QuitAsked (t.history ++ notes)
  rw [quitting, quitAsked_append, or_iff_left unasked]
  exact h

theorem Effect.quitsWhenAsked (effect : Effect t t') (h : t.QuitsWhenAsked) :
    t'.QuitsWhenAsked := by
  have unasked {notes : List Note} (silent : Silent notes) {n : Note}
      (other : ∀ now, n ≠ .performed now .quit) : ¬ QuitAsked (notes ++ [n]) := by
    rw [quitAsked_append]
    rintro (asked | ⟨now, asked⟩)
    · exact not_quitAsked_of_silent silent asked
    · exact other now (List.mem_singleton.mp asked).symm
  have alone {n : Note} (other : ∀ now, n ≠ .performed now .quit) : ¬ QuitAsked [n] :=
    unasked silent_nil other
  cases effect with
  | quiet quiet clipboard stance silent =>
    exact quitsWhenAsked_note quiet.quitting h (not_quitAsked_of_silent silent)
  | quit silent now =>
    refine iff_of_true rfl ?_
    exact (quitAsked_append _ _).mpr (.inr ((quitAsked_append _ _).mpr (.inr ⟨now, .head _⟩)))
  | started silent next =>
    exact quitsWhenAsked_note (t := t) (State.quitting_submitted · true) h (unasked silent nofun)
  | unstarted silent next =>
    exact quitsWhenAsked_note (State.quitting_submitted · false) h (unasked silent nofun)
  | displayed outcome =>
    exact quitsWhenAsked_note (State.quitting_display · outcome) h (alone nofun)
  | answered => exact h
  | arrived => exact h
  | @received arrival rest first =>
    exact quitsWhenAsked_note (t := t) (State.quitting_receive · arrival) h (alone nofun)

/-- **The desk quits when it is asked to**, and never otherwise. -/
theorem quitsWhenAsked {source : List Char} {imageUrl : Option String} {clipboard : Clipboard}
    {service : σ} (run : Run answers (opening source imageUrl clipboard service) t) :
    t.QuitsWhenAsked := by
  induction run with
  | refl => exact iff_of_false Bool.false_ne_true fun ⟨_, h⟩ => nomatch h
  | tail _ step ih => exact step.effect.quitsWhenAsked ih

/-- What has happened stays noted. -/
theorem Effect.history_prefix (effect : Effect t t') : t.history <+: t'.history := by
  cases effect with
  | answered => exact List.prefix_rfl
  | arrived => exact List.prefix_rfl
  | _ => exact List.prefix_append _ _

theorem history_prefix_of_run (run : Run answers t t') : t.history <+: t'.history := by
  induction run with
  | refl => exact List.prefix_rfl
  | tail _ step ih => exact ih.trans step.effect.history_prefix

/-! ## No request is lost -/

/-- **Every request is accounted for**, and the phase of the desk tells the truth about them. -/
structure Accounted (answers : Answering σ) (t : Traffic σ) : Prop where
  /-- A request is unanswered as long as it is with a worker or in the queue. -/
  inFlight_eq : t.desk.inFlight = t.workers.length + t.returning.length + t.arrivals.length
  /-- No request is in two places, or in one place twice. -/
  places_nodup : (t.running ++ t.queued ++ t.applied ++ t.failed).Nodup
  /-- The requests in all places are the numbers given out so far. -/
  mem_places_iff : ∀ id, id ∈ t.running ++ t.queued ++ t.applied ++ t.failed ↔
    1 ≤ id ∧ id < t.desk.nextRequest
  /-- A request that a worker set out with is with a worker, in the queue or taken in. -/
  started_perm : t.started.Perm (t.running ++ t.queued ++ t.applied)
  /-- Taking in an arrival lowers the number of unanswered requests, which never stays at zero. -/
  inFlight_receive : ∀ {arrival rest}, t.arrivals = arrival :: rest →
    (t.desk.receive arrival).inFlight + 1 = t.desk.inFlight
  /-- The desk runs if and only if everything that a worker set out with was taken in. -/
  running_iff : ¬ QuitAsked t.history →
    (t.desk.phase = .running ↔ ∀ id ∈ t.started, id ∈ t.applied)
  /-- Once the user has asked to quit, the desk is quitting for ever. -/
  quitting_of_asked : QuitAsked t.history → ∀ t', Run answers t t' → t'.desk.phase = .quitting

/-- Nothing is with a worker or in the queue if and only if everything started was taken in. -/
theorem inFlight_eq_zero_iff (h : t.ledger.Balanced) :
    t.desk.inFlight = 0 ↔ ∀ id ∈ t.started, id ∈ t.applied := by
  have hcount : t.desk.inFlight = t.running.length + t.queued.length := h.inFlight_eq
  have hstarted : t.started.Perm (t.running ++ t.queued ++ t.applied) := h.started_perm
  have hplaces : (t.running ++ t.queued ++ t.applied ++ t.failed).Nodup :=
    h.requests_perm.nodup_iff.mpr List.nodup_range'
  -- What is unanswered and what was taken in have no number in common.
  have hdisjoint := (List.nodup_append.mp (List.nodup_append.mp hplaces).1).2.2
  constructor
  · intro hzero id hid
    have hrunning : t.running = [] := List.eq_nil_of_length_eq_zero (by omega)
    have hqueued : t.queued = [] := List.eq_nil_of_length_eq_zero (by omega)
    rw [hrunning, hqueued] at hstarted
    exact hstarted.subset hid
  · intro happlied
    have hnone : t.running ++ t.queued = [] := by
      refine List.eq_nil_iff_forall_not_mem.mpr fun id hid => ?_
      have hmem : id ∈ t.started := hstarted.mem_iff.mpr (List.mem_append_left _ hid)
      exact hdisjoint id hid id (happlied id hmem) rfl
    have hlength := congrArg List.length hnone
    rw [List.length_append, List.length_nil] at hlength
    omega

/-- **No request is lost, repeated or miscounted**, in whatever order things happen. -/
theorem accounted {source : List Char} {imageUrl : Option String} {clipboard : Clipboard}
    {service : σ} (run : Run answers (opening source imageUrl clipboard service) t) :
    t.Accounted answers := by
  have hbalanced := balanced run
  have hcount : t.desk.inFlight = t.workers.length + t.returning.length + t.arrivals.length := by
    have hledger : t.desk.inFlight = t.running.length + t.queued.length := hbalanced.inFlight_eq
    rw [hledger, running, queued, List.length_append, List.length_map, List.length_map,
      List.length_map]
  have hplaces : (t.running ++ t.queued ++ t.applied ++ t.failed).Perm
      (List.range' 1 (t.desk.nextRequest - 1)) := hbalanced.requests_perm
  have hnext : 1 ≤ t.desk.nextRequest := hbalanced.one_le_next
  refine ⟨hcount, hplaces.nodup_iff.mpr List.nodup_range', fun id => ?_, hbalanced.started_perm,
    fun {arrival rest} first => ?_, fun unasked => ?_, fun asked t' later => ?_⟩
  · rw [hplaces.mem_iff, List.mem_range'_1]
    omega
  · have hlength := congrArg List.length first
    rw [List.length_cons] at hlength
    rw [State.inFlight_receive]
    omega
  · have hquitting : t.desk.quitting = false :=
      Bool.eq_false_iff.mpr fun h => unasked ((quitsWhenAsked run).mp h)
    rw [← inFlight_eq_zero_iff hbalanced, State.phase_eq_running_iff]
    exact and_iff_right hquitting
  · -- The wish stays noted, and the desk is true to what is noted at the later moment as well.
    have hquitting : t'.desk.quitting = true := by
      refine (quitsWhenAsked (run.trans later)).mpr ?_
      obtain ⟨now, h⟩ := asked
      exact ⟨now, (history_prefix_of_run later).subset h⟩
    rw [State.phase, hquitting, if_pos rfl]

/-- A desk with four submissions: the second finds no worker, the fourth overtakes the others. -/
def overtaken : Traffic Unit :=
  let submission (id : Nat) : Submission := ⟨id, ['x']⟩
  let complaint : Except Fault Outcome := .ok (.failure "no")
  let fault : Except Fault Outcome := .error (.transport (.network "down"))
  let t := (opening ['x'] none .empty ()).take true (.command 0 .submit)
  let t := ((t.take false (.command 1 .submit)).take true (.command 2 .submit)).take true
    (.command 3 .submit)
  let t := (t.answer [submission 1, submission 3] [] (submission 4) complaint ()).arrive [] []
    ⟨4, complaint⟩
  let t := (t.turn .draining).receive ⟨4, complaint⟩ []
  (t.answer [] [submission 3] (submission 1) fault ()).arrive [] [] ⟨1, fault⟩

theorem overtaken_accounted :
    overtaken.Accounted (fun _ _ _ _ => True) ∧ overtaken.running = [3] ∧
      overtaken.queued = [1] ∧ overtaken.applied = [4] ∧ overtaken.failed = [2] := by
  have run : Run (fun _ _ _ _ => True) (opening ['x'] none .empty ()) overtaken := by
    refine .tail (.tail (.tail (.tail (.tail (.tail (.tail (.tail (.tail (.tail .refl
      (.input rfl true (.command 0 .submit))) (.input rfl false (.command 1 .submit)))
      (.input rfl true (.command 2 .submit))) (.input rfl true (.command 3 .submit)))
      (.answer rfl trivial)) (.arrive rfl)) (.drain rfl)) (.drainOne rfl rfl))
      (.answer rfl trivial)) (.arrive rfl)
  exact ⟨accounted run, rfl, rfl, rfl, rfl⟩

end Traffic
end AnalysisDesk.Desk
