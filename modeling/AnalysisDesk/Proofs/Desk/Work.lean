import AnalysisDesk.Proofs.Desk.Traffic

/-! # The user's work
The work is what belongs to the user: the source and the cursor, the clipboard, the panel that has
the keyboard, the sources submitted so far. `Work.take` says what an action of the user makes of it,
and knows of no service, no worker and no queue. The work at the desk follows the actions in just
this way, so that no answer, however it comes and whenever it is taken in, can disturb it. -/

namespace AnalysisDesk.Desk

open AnalysisDesk.Editor (Buffer Clipboard confirmationTime)
open AnalysisDesk.Service (Outcome Fault)

/-! ## The work and the actions -/

/-- What the user works on. -/
structure Work where
  /-- The source and the cursor in it. -/
  buffer : Buffer
  /-- When the last copy was made, until its confirmation is dropped. -/
  copiedAt : Option Nat
  /-- The clipboard, with every text written to it. -/
  clipboard : Clipboard
  /-- The last trouble with the clipboard, if it has not gone away. -/
  status : Option String
  /-- The panel that has the keyboard. -/
  panel : Panel
  /-- Whether the user has asked to quit. -/
  quitting : Bool
  /-- The number of the next request. -/
  nextRequest : Nat
  /-- What was submitted so far, whether or not a worker could be started for it. -/
  attempts : List Submission

namespace Work

/-- Submit the source, unless it is empty. -/
def submit (w : Work) : Work :=
  if w.buffer.text = [] then w
  else { w with nextRequest := w.nextRequest + 1
                attempts := w.attempts ++ [⟨w.nextRequest, w.buffer.text⟩] }

/-- Copy the source; trouble with the clipboard is kept in mind until a copy succeeds. -/
def copy (w : Work) (now : Nat) : Work :=
  match w.clipboard.write w.buffer.text with
  | .ok clipboard => { w with clipboard, copiedAt := some now, status := none }
  | .error fault => { w with status := some fault.message }

/-- Do what a command asks for. Moving over the lines of a viewer is no work. -/
def perform (w : Work) (now : Nat) : Command → Work
  | .quit => { w with quitting := true }
  | .submit => w.submit
  | .copy => w.copy now
  | .cyclePanel => { w with panel := w.panel.next }
  | .edit e => { w with buffer := w.buffer.edit e }
  | .scroll _ => w

/-- Do what a key asks for; which command that is depends on the panel that has the keyboard. -/
def press (w : Work) (now : Nat) (key : Key) : Work :=
  match key.command? w.panel with
  | none => w
  | some command => w.perform now command

/-- **Take an input.** An outcome that is put on display and a drawing change nothing. -/
def take (w : Work) : Input → Work
  | .key now key => w.press now key
  | .command now command => w.perform now command
  | .setText text => { w with buffer := .ofText text }
  | .tick now =>
    { w with copiedAt := w.copiedAt.filter fun copied => now - copied < confirmationTime }
  | .clipboard fault => { w with clipboard := { w.clipboard with fault } }
  | .display _ => w
  | .draw .. => w
  | .shownIn _ => w

end Work

/-- Whether an input is an action of the user, or of the clipboard that the user copies to. -/
def Input.isAction : Input → Bool
  | .display _ => false
  | .draw .. => false
  | .shownIn _ => false
  | _ => true

/-- An input that is no action changes nothing of the work. -/
theorem Work.take_of_not_isAction (w : Work) {input : Input} (h : input.isAction = false) :
    w.take input = w := by
  cases input with
  | display | draw | shownIn => rfl
  | _ => cases h

/-- The actions that were taken, in order. -/
def actionsOf (history : List Note) : List Input :=
  history.filterMap fun
    | .input input => if input.isAction then some input else none
    | _ => none

/-- What was submitted, whether or not a worker could be started for it, in order. -/
def attemptsOf (history : List Note) : List Submission :=
  history.filterMap fun
    | .started submission => some submission
    | .unstarted submission => some submission
    | _ => none

@[simp] theorem actionsOf_append (history notes : List Note) :
    actionsOf (history ++ notes) = actionsOf history ++ actionsOf notes :=
  List.filterMap_append

@[simp] theorem attemptsOf_append (history notes : List Note) :
    attemptsOf (history ++ notes) = attemptsOf history ++ attemptsOf notes :=
  List.filterMap_append

/-- What a worker set out with was submitted before. -/
theorem startedOf_sublist_attemptsOf (history : List Note) :
    (startedOf history).Sublist (attemptsOf history) := by
  induction history with
  | nil => exact .slnil
  | cons n history ih =>
    cases n with
    | started submission => exact ih.cons_cons submission
    | unstarted submission => exact ih.cons submission
    | _ => exact ih

namespace State

/-- The work at the desk, with a clipboard and with what was submitted so far. -/
def work (s : State) (clipboard : Clipboard) (attempts : List Submission) : Work where
  buffer := s.surface.buffer
  copiedAt := s.surface.copiedAt
  clipboard := clipboard
  status := s.status
  panel := s.panel
  quitting := s.quitting
  nextRequest := s.nextRequest
  attempts := attempts

variable (s : State) (clipboard : Clipboard) (attempts : List Submission)

/-- Moving over the lines of a viewer is no work. -/
theorem work_scroll (move : Scroll) : (s.scroll move).work clipboard attempts =
    s.work clipboard attempts := by
  unfold scroll
  split <;> rfl

/-- **An outcome on display** does not disturb the work. -/
theorem work_display (outcome : Outcome) : (s.display outcome).work clipboard attempts =
    s.work clipboard attempts := by
  cases outcome <;> rfl

/-- **An arrival** does not disturb the work, whether it brings an outcome or not. -/
theorem work_receive (arrival : Arrival) : (s.receive arrival).work clipboard attempts =
    s.work clipboard attempts := by
  unfold receive
  split
  · exact work_display _ clipboard attempts _
  · rfl

/-- The confirmation of a copy is dropped once its time is up. -/
theorem work_tick (now : Nat) : (s.tick now).work clipboard attempts =
    (s.work clipboard attempts).take (.tick now) := by
  unfold tick
  rw [Editor.Surface.tick_eq]
  rfl

end State

namespace Traffic

variable {σ : Type} {answers : Answering σ} {t t' : Traffic σ}

/-- The actions that the desk has taken, in order. -/
def actions (t : Traffic σ) : List Input := actionsOf t.history

/-- The work at the desk. -/
def work (t : Traffic σ) : Work := t.desk.work t.clipboard (attemptsOf t.history)

/-! ## What an input can reach -/

/-- A change at the desk, with what it notes. It can start workers, but reaches neither the service
nor the workers that are under way. -/
structure Local (t t' : Traffic σ) (notes : List Note) : Prop where
  /-- The notes are the news. -/
  history_eq : t'.history = t.history ++ notes
  /-- The service is left alone. -/
  service_eq : t'.service = t.service
  /-- The workers that set out join the others. -/
  workers_eq : t'.workers = t.workers ++ startedOf notes
  /-- No further input is taken. -/
  actionsOf_eq : actionsOf notes = []
  /-- What a worker sets out with is what was to be submitted just then. -/
  submission?_eq : ∀ submission ∈ startedOf notes, t.desk.submission? = some submission

/-- A change that notes nothing and starts no worker. -/
theorem Local.quiet (history : t'.history = t.history) (service : t'.service = t.service)
    (workers : t'.workers = t.workers) : Local t t' [] := by
  refine ⟨?_, service, ?_, rfl, fun _ h => nomatch h⟩
  · rw [history, List.append_nil]
  · rw [workers]
    exact (List.append_nil _).symm

/-- A change with a note of it before. -/
theorem Local.after_note {n : Note} {notes : List Note} (h : Local (t.note [n]) t' notes)
    (started : startedOf [n] = []) (action : actionsOf [n] = []) : Local t t' (n :: notes) := by
  have news : startedOf (n :: notes) = startedOf notes := by
    rw [← List.singleton_append, startedOf_append, started, List.nil_append]
  refine ⟨?_, h.service_eq, ?_, ?_, ?_⟩
  · rw [h.history_eq]
    exact List.append_assoc _ _ _
  · rw [news]
    exact h.workers_eq
  · rw [← List.singleton_append, actionsOf_append, action, h.actionsOf_eq, List.append_nil]
  · rw [news]
    exact h.submission?_eq

theorem exists_local_submit (t : Traffic σ) (starts : Bool) :
    ∃ notes, Local t (t.submit starts) notes := by
  unfold submit
  split
  case h_1 => exact ⟨[], .quiet rfl rfl rfl⟩
  case h_2 submission found =>
    cases starts with
    | true =>
      refine ⟨[.started submission], rfl, rfl, rfl, rfl, fun other h => ?_⟩
      rw [List.mem_singleton.mp h]
      exact found
    | false =>
      exact ⟨[.unstarted submission], rfl, rfl, (List.append_nil _).symm, rfl,
        fun _ h => nomatch h⟩

theorem exists_local_copy (t : Traffic σ) (now : Nat) : ∃ notes, Local t (t.copy now) notes := by
  unfold copy
  split
  · exact ⟨[_], rfl, rfl, (List.append_nil _).symm, rfl, fun _ h => nomatch h⟩
  · exact ⟨[_], rfl, rfl, (List.append_nil _).symm, rfl, fun _ h => nomatch h⟩

theorem exists_local_perform (t : Traffic σ) (starts : Bool) (now : Nat) (command : Command) :
    ∃ notes, Local t (t.perform starts now command) notes := by
  have done : ∃ notes,
      Local (t.note [.performed now command]) (t.perform starts now command) notes := by
    cases command with
    | submit => exact exists_local_submit _ starts
    | copy => exact exists_local_copy _ now
    | quit | cyclePanel | edit | scroll => exact ⟨[], .quiet rfl rfl rfl⟩
  obtain ⟨notes, h⟩ := done
  exact ⟨_, h.after_note rfl rfl⟩

theorem exists_local_press (t : Traffic σ) (starts : Bool) (now : Nat) (key : Key) :
    ∃ notes, Local t (t.press starts now key) notes := by
  unfold press
  split
  · exact ⟨[], .quiet rfl rfl rfl⟩
  · exact exists_local_perform t starts now _

/-- **An input reaches the desk only**, and workers that it starts. -/
theorem exists_local_take (t : Traffic σ) (starts : Bool) (input : Input) :
    ∃ notes, Local (t.note [.input input]) (t.take starts input) notes := by
  cases input with
  | key now key => exact exists_local_press _ starts now key
  | command now command => exact exists_local_perform _ starts now command
  | setText | tick | display | draw | shownIn | clipboard => exact ⟨[], .quiet rfl rfl rfl⟩

/-- Notes of no input leave the actions alone. -/
theorem actions_note (t : Traffic σ) {notes : List Note} (silent : actionsOf notes = []) :
    (t.note notes).actions = t.actions := by
  unfold actions note
  rw [actionsOf_append, silent, List.append_nil]

/-- An input is counted if it is an action. -/
theorem actions_take (t : Traffic σ) (starts : Bool) (input : Input) :
    (t.take starts input).actions = t.actions ++ if input.isAction then [input] else [] := by
  obtain ⟨notes, h⟩ := exists_local_take t starts input
  have noted : (t.note [.input input]).history = t.history ++ [.input input] := rfl
  unfold actions
  rw [h.history_eq, noted, actionsOf_append, actionsOf_append, h.actionsOf_eq, List.append_nil]
  cases input <;> rfl

/-! ## What an input does to the work -/

/-- Notes add to the work what they tell of submissions. -/
theorem work_note (t : Traffic σ) (notes : List Note) :
    (t.note notes).work = { t.work with attempts := t.work.attempts ++ attemptsOf notes } := by
  unfold work note
  rw [attemptsOf_append]
  rfl

/-- Notes of no submission leave the work alone. -/
theorem work_note_of_nil (t : Traffic σ) (notes : List Note) (silent : attemptsOf notes = []) :
    (t.note notes).work = t.work := by
  rw [work_note, silent, List.append_nil]

/-- A submission at the desk, whether a worker starts or not. -/
theorem work_submit (t : Traffic σ) (starts : Bool) : (t.submit starts).work = t.work.submit := by
  by_cases empty : t.desk.surface.buffer.text = []
  · have found := State.submission?_of_eq_nil (s := t.desk) empty
    have same : t.work.submit = t.work := if_pos empty
    simp only [Traffic.submit, found, same]
  · have found := State.submission?_of_ne_nil (s := t.desk) empty
    have counted : t.work.submit = _ := if_neg empty
    simp only [Traffic.submit, found, counted]
    cases starts with
    | true => exact work_note _ _
    | false => exact work_note _ _

/-- A copy at the desk. -/
theorem work_copy (t : Traffic σ) (now : Nat) : (t.copy now).work = t.work.copy now := by
  have wrote : t.desk.surface.copy t.clipboard now =
      (t.work.clipboard.write t.work.buffer.text).map
        fun clipboard => ({ t.desk.surface with copiedAt := some now }, clipboard) := rfl
  unfold Traffic.copy Work.copy
  rw [wrote]
  cases t.work.clipboard.write t.work.buffer.text with
  | ok clipboard =>
    exact work_note_of_nil _ [.copied now t.desk.surface.snapshot] rfl
  | error fault => exact work_note_of_nil _ [.copyFailed now fault] rfl

/-- A command at the desk. -/
theorem work_perform (t : Traffic σ) (starts : Bool) (now : Nat) (command : Command) :
    (t.perform starts now command).work = t.work.perform now command := by
  have noted : (t.note [.performed now command]).work = t.work := work_note_of_nil t _ rfl
  rw [← noted]
  unfold Traffic.perform
  cases command with
  | submit => exact work_submit _ starts
  | copy => exact work_copy _ now
  | scroll move => exact State.work_scroll _ _ _ move
  | quit | cyclePanel | edit => rfl

/-- A key at the desk. -/
theorem work_press (t : Traffic σ) (starts : Bool) (now : Nat) (key : Key) :
    (t.press starts now key).work = t.work.press now key := by
  have panel : t.work.panel = t.desk.panel := rfl
  unfold Traffic.press Work.press
  rw [panel]
  cases key.command? t.desk.panel with
  | none => rfl
  | some command => exact work_perform t starts now command

/-- **An input at the desk** does to the work what the work alone says. -/
theorem work_take (t : Traffic σ) (starts : Bool) (input : Input) :
    (t.take starts input).work = t.work.take input := by
  have noted : (t.note [.input input]).work = t.work := work_note_of_nil t _ rfl
  rw [← noted]
  cases input with
  | key now key => exact work_press _ starts now key
  | command now command => exact work_perform _ starts now command
  | tick now => exact State.work_tick _ _ _ now
  | display outcome => exact State.work_display _ _ _ outcome
  | setText | draw | shownIn | clipboard => rfl

/-! ## Steps and runs -/

/-- A step takes one action, or leaves the actions and the work as they are. -/
theorem Step.work (step : Step answers t t') :
    (∃ input, t'.actions = t.actions ++ [input] ∧ t'.work = t.work.take input) ∨
      (t'.actions = t.actions ∧ t'.work = t.work) := by
  cases step with
  | input _ starts input =>
    have actions := actions_take t starts input
    have work := work_take t starts input
    cases action : input.isAction with
    | true =>
      rw [action, if_pos rfl] at actions
      exact .inl ⟨input, actions, work⟩
    | false =>
      rw [action, if_neg Bool.false_ne_true, List.append_nil] at actions
      rw [Work.take_of_not_isAction t.work action] at work
      exact .inr ⟨actions, work⟩
  | answer | arrive | drain | wait => exact .inr ⟨rfl, rfl⟩
  | drainOne _ first | waitOne _ _ first =>
    exact .inr ⟨actions_note _ rfl, (work_note_of_nil _ _ rfl).trans (State.work_receive _ _ _ _)⟩
  | drained | answered | timeUp => exact .inr ⟨actions_note _ rfl, work_note_of_nil _ _ rfl⟩

/-- **The work follows the actions** through a whole run. -/
theorem Run.work (run : Run answers t t') :
    ∃ inputs, t'.actions = t.actions ++ inputs ∧ t'.work = inputs.foldl Work.take t.work := by
  induction run with
  | refl => exact ⟨[], (List.append_nil _).symm, rfl⟩
  | tail _ step ih =>
    obtain ⟨inputs, actions, work⟩ := ih
    rcases step.work with ⟨input, actions', work'⟩ | ⟨actions', work'⟩
    · refine ⟨inputs ++ [input], ?_, ?_⟩
      · rw [actions', actions, List.append_assoc]
      · rw [work', work, List.foldl_append, List.foldl_cons, List.foldl_nil]
    · exact ⟨inputs, actions'.trans actions, work'.trans work⟩

/-- **The same actions make the same work**, whatever the services answer, whichever workers can be
started, in whatever order they come back and whenever the desk takes in what they bring. -/
theorem work_eq_of_actions {σ₁ σ₂ : Type} {answers₁ : Answering σ₁} {answers₂ : Answering σ₂}
    {u₁ t₁ : Traffic σ₁} {u₂ t₂ : Traffic σ₂} {inputs : List Input} (same : u₁.work = u₂.work)
    (run₁ : Run answers₁ u₁ t₁) (run₂ : Run answers₂ u₂ t₂)
    (actions₁ : t₁.actions = u₁.actions ++ inputs) (actions₂ : t₂.actions = u₂.actions ++ inputs) :
    t₁.work = t₂.work := by
  obtain ⟨inputs₁, taken₁, work₁⟩ := Run.work run₁
  obtain ⟨inputs₂, taken₂, work₂⟩ := Run.work run₂
  have all₁ : inputs₁ = inputs := List.append_cancel_left (taken₁.symm.trans actions₁)
  have all₂ : inputs₂ = inputs := List.append_cancel_left (taken₂.symm.trans actions₂)
  rw [work₁, work₂, all₁, all₂, same]

/-- A desk whose one request is answered. -/
def heard : Traffic Unit :=
  let answer : Except Fault Outcome := .ok (.success ⟨["x"], .null⟩)
  let t := (opening ['x'] none .empty ()).take true (.command 0 .submit)
  let t := (t.answer [] [] ⟨1, ['x']⟩ answer ()).arrive [] [] ⟨1, answer⟩
  (((t.turn .draining).receive ⟨1, answer⟩ []).turn .free).note [.drained]

/-- A desk at which no worker can be started for a request. -/
def unheard : Traffic Unit := (opening ['x'] none .empty ()).take false (.command 0 .submit)

/-- The source of a desk is edited and copied. -/
def editedAndCopied (t : Traffic Unit) : Traffic Unit :=
  (t.take true (.key 5 (.plain 'y'))).take true (.command 6 .copy)

theorem heard_work :
    heard.editedAndCopied.work = unheard.editedAndCopied.work ∧
      heard.editedAndCopied.clipboard.writes = [['y', 'x']] ∧
      unheard.editedAndCopied.work.attempts = [⟨1, ['x']⟩] ∧
      heard.editedAndCopied.desk.tokens.text ≠ unheard.editedAndCopied.desk.tokens.text := by
  have run₁ : Run (fun _ _ _ _ => True) (opening ['x'] none .empty ()) heard := by
    refine .tail (.tail (.tail (.tail (.tail (.tail .refl
      (.input rfl true (.command 0 .submit))) (.answer rfl trivial)) (.arrive rfl)) (.drain rfl))
      (.drainOne rfl rfl)) (.drained rfl rfl)
  have run₁ : Run (fun _ _ _ _ => True) (opening ['x'] none .empty ()) heard.editedAndCopied :=
    (run₁.tail (.input rfl true (.key 5 (.plain 'y')))).tail (.input rfl true (.command 6 .copy))
  have run₂ : Run (fun _ _ _ _ => False) (opening ['x'] none .empty ())
      unheard.editedAndCopied := by
    refine .tail (.tail (.tail .refl (.input rfl false (.command 0 .submit)))
      (.input rfl true (.key 5 (.plain 'y')))) (.input rfl true (.command 6 .copy))
  have same := work_eq_of_actions rfl run₁ run₂ rfl rfl
  exact ⟨same, by decide, by decide, by decide⟩

end Traffic
end AnalysisDesk.Desk
