import AnalysisDesk.Proofs.Desk.Quiet
import AnalysisDesk.Proofs.Desk.Traffic

/-! # What a step can do
A step of the traffic does one of eight things, however it came about: a key, a command and a direct
call end in the same few effects. What holds of the effects holds of every step; nothing else about
the traffic needs to look at its inputs one by one. -/

namespace AnalysisDesk.Desk

open AnalysisDesk.Editor (Clipboard)
open AnalysisDesk.Service (Outcome Fault)

/-- A note that tells nothing of the requests, of the answers or of a wish to quit. -/
def Note.silent : Note → Bool
  | .input (.display _) => false
  | .performed _ .quit => false
  | .started _ => false
  | .unstarted _ => false
  | .received _ => false
  | _ => true

/-- Only silent notes. -/
def Silent (notes : List Note) : Prop := ∀ n ∈ notes, n.silent = true

theorem silent_nil : Silent [] := fun _ h => nomatch h

theorem Silent.concat {notes : List Note} (h : Silent notes) {n : Note} (silent : n.silent = true) :
    Silent (notes ++ [n]) := by
  intro n' h'
  rcases List.mem_append.mp h' with h' | h'
  · exact h n' h'
  · rw [List.mem_singleton.mp h']
    exact silent

theorem Silent.startedOf_eq {notes : List Note} (h : Silent notes) : startedOf notes = [] := by
  refine List.filterMap_eq_nil_iff.mpr fun n hn => ?_
  have silent := h n hn
  cases n with
  | started => cases silent
  | _ => rfl

theorem Silent.startedOf_concat {notes : List Note} (h : Silent notes) (n : Note) :
    startedOf (notes ++ [n]) = startedOf [n] := by
  rw [startedOf_append, h.startedOf_eq, List.nil_append]

theorem Silent.unstartedOf_eq {notes : List Note} (h : Silent notes) : unstartedOf notes = [] := by
  refine List.filterMap_eq_nil_iff.mpr fun n hn => ?_
  have silent := h n hn
  cases n with
  | unstarted => cases silent
  | _ => rfl

theorem Silent.unstartedOf_concat {notes : List Note} (h : Silent notes) (n : Note) :
    unstartedOf (notes ++ [n]) = unstartedOf [n] := by
  rw [unstartedOf_append, h.unstartedOf_eq, List.nil_append]

theorem Silent.receivedOf_eq {notes : List Note} (h : Silent notes) : receivedOf notes = [] := by
  refine List.filterMap_eq_nil_iff.mpr fun n hn => ?_
  have silent := h n hn
  cases n with
  | received => cases silent
  | _ => rfl

theorem Silent.receivedOf_concat {notes : List Note} (h : Silent notes) (n : Note) :
    receivedOf (notes ++ [n]) = receivedOf [n] := by
  rw [receivedOf_append, h.receivedOf_eq, List.nil_append]

namespace Traffic

variable {σ : Type} {answers : Answering σ} {t t' : Traffic σ}

/-- **The effects** that a step can have. -/
inductive Effect (t : Traffic σ) : Traffic σ → Prop
  /-- A quiet change of the desk. -/
  | quiet {change : State → State} (quiet : State.Quiet change) (clipboard : Clipboard)
      (stance : Stance) {notes : List Note} (silent : Silent notes) :
      Effect t ({ t.onDesk change with clipboard, stance }.note notes)
  /-- The user asks to quit. -/
  | quit {notes : List Note} (silent : Silent notes) (now : Nat) :
      Effect t ((t.onDesk State.quit).note (notes ++ [.performed now .quit]))
  /-- A worker sets out with a submission. -/
  | started {notes : List Note} (silent : Silent notes) {submission : Submission}
      (next : submission.id = t.desk.nextRequest) :
      Effect t ({ t.onDesk (·.submitted true) with workers := t.workers ++ [submission] }.note
        (notes ++ [Note.started submission]))
  /-- No worker can be started for a submission. -/
  | unstarted {notes : List Note} (silent : Silent notes) {submission : Submission}
      (next : submission.id = t.desk.nextRequest) :
      Effect t ((t.onDesk (·.submitted false)).note (notes ++ [.unstarted submission]))
  /-- An outcome that no worker brought goes on display. -/
  | displayed (outcome : Outcome) :
      Effect t ((t.onDesk (·.display outcome)).note [.input (.display outcome)])
  /-- A worker gets its result. -/
  | answered {before after : List Submission} {submission : Submission}
      (here : t.workers = before ++ submission :: after) (result : Except Fault Outcome)
      (service : σ) : Effect t (t.answer before after submission result service)
  /-- A worker joins the queue. -/
  | arrived {before after : List Arrival} {arrival : Arrival}
      (here : t.returning = before ++ arrival :: after) : Effect t (t.arrive before after arrival)
  /-- The first arrival is taken in. -/
  | received {arrival : Arrival} {rest : List Arrival} (first : t.arrivals = arrival :: rest) :
      Effect t (t.receive arrival rest)

@[simp] theorem note_note (t : Traffic σ) (first second : List Note) :
    (t.note first).note second = t.note (first ++ second) := by
  unfold note
  rw [List.append_assoc]

@[simp] theorem note_nil (t : Traffic σ) : t.note [] = t := by
  unfold note
  rw [List.append_nil]

/-- A quiet change of the desk alone. -/
theorem Effect.onDesk {change : State → State} (quiet : State.Quiet change) {notes : List Note}
    (silent : Silent notes) : Effect t ((t.onDesk change).note notes) :=
  .quiet quiet t.clipboard t.stance silent

/-- A turn of the desk's own thread. -/
theorem Effect.turn (stance : Stance) {notes : List Note}
    (silent : Silent notes) : Effect t ((t.turn stance).note notes) :=
  .quiet State.quiet_id t.clipboard stance silent

/-- What a submission does. -/
theorem effect_submit (t : Traffic σ) (starts : Bool) {notes : List Note}
    (silent : Silent notes) : Effect t ((t.note notes).submit starts) := by
  unfold submit
  cases h : t.desk.submission? with
  -- Of an empty source there is no submission, and nothing happens.
  | none =>
    simp only [note, h]
    exact Effect.turn t.stance silent
  | some submission =>
    have next := State.id_of_submission? h
    cases starts with
    | true =>
      have effect := Effect.started (t := t) silent next
      simpa [note, onDesk, h] using effect
    | false =>
      have effect := Effect.unstarted (t := t) silent next
      simpa [note, onDesk, h] using effect

/-- What a copy does. -/
theorem effect_copy (t : Traffic σ) (now : Nat) {notes : List Note}
    (silent : Silent notes) : Effect t ((t.note notes).copy now) := by
  unfold copy
  cases h : t.desk.surface.copy t.clipboard now with
  | ok taken =>
    obtain ⟨surface, clipboard⟩ := taken
    have copied : Silent (notes ++ [.copied now t.desk.surface.snapshot]) := silent.concat rfl
    have effect := Effect.quiet (t := t) (State.quiet_copied surface none) clipboard t.stance copied
    simpa [note, onDesk, h] using effect
  | error fault =>
    have failed : Silent (notes ++ [.copyFailed now fault]) := silent.concat rfl
    have effect := Effect.quiet (t := t) (State.quiet_copied t.desk.surface (some fault.message))
      t.clipboard t.stance failed
    simpa [note, onDesk, h] using effect

/-- What a command does. -/
theorem effect_perform (t : Traffic σ) (starts : Bool) (now : Nat) (command : Command)
    {notes : List Note} (silent : Silent notes) :
    Effect t ((t.note notes).perform starts now command) := by
  unfold perform
  rw [note_note]
  cases command with
  | quit => exact .quit silent now
  | submit => exact effect_submit t starts (silent.concat rfl)
  | copy => exact effect_copy t now (silent.concat rfl)
  | cyclePanel => exact Effect.onDesk State.quiet_cyclePanel (silent.concat rfl)
  | edit e => exact Effect.onDesk (State.quiet_edit e) (silent.concat rfl)
  | scroll move => exact Effect.onDesk (State.quiet_scroll move) (silent.concat rfl)

/-- What a key does. -/
theorem effect_press (t : Traffic σ) (starts : Bool) (now : Nat) (key : Key)
    {notes : List Note} (silent : Silent notes) :
    Effect t ((t.note notes).press starts now key) := by
  unfold press
  split
  · exact Effect.turn t.stance silent
  · exact effect_perform t starts now _ silent

/-- What an input does. -/
theorem effect_take (t : Traffic σ) (starts : Bool) (input : Input) :
    Effect t (t.take starts input) := by
  have silent {i : Input} (h : (Note.input i).silent = true) : Silent [.input i] :=
    silent_nil.concat h
  unfold take
  -- Keys and commands go the same way; the other inputs are effects themselves.
  cases input with
  | key now key => exact effect_press t starts now key (silent rfl)
  | command now command => exact effect_perform t starts now command (silent rfl)
  | setText text => exact Effect.onDesk (State.quiet_setText text) (silent rfl)
  | tick now => exact Effect.onDesk (State.quiet_tick now) (silent rfl)
  | display outcome => exact .displayed outcome
  | draw width height => exact Effect.onDesk (State.quiet_drawn width height) (silent rfl)
  | shownIn height => exact Effect.onDesk (State.quiet_shownIn height) (silent rfl)
  | clipboard fault =>
    exact .quiet State.quiet_id { t.clipboard with fault } t.stance (silent rfl)

/-- **Each step has one of the effects.** -/
theorem Step.effect (step : Step answers t t') : Effect t t' := by
  have silent {n : Note} (h : n.silent = true) : Silent [n] := silent_nil.concat h
  cases step with
  | input _ starts input => exact effect_take t starts input
  | answer here _ => exact .answered here _ _
  | arrive here => exact .arrived here
  | drain => simpa using Effect.turn (t := t) .draining silent_nil
  | wait => simpa using Effect.turn (t := t) .waiting silent_nil
  | drainOne _ first => exact .received first
  | waitOne _ _ first => exact .received first
  | drained => exact Effect.turn .free (silent rfl)
  | answered => exact Effect.turn .free (silent rfl)
  | timeUp => exact Effect.turn .free (silent rfl)

end Traffic
end AnalysisDesk.Desk
