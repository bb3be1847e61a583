import AnalysisDesk.Proofs.Desk.Accounts
import AnalysisDesk.Proofs.Desk.Work

/-! # Copies and their confirmation
The editor keeps the moment of the last copy and forgets it again once its confirmation is no longer
up. What the user sees depends on nothing so fleeting: it is told by the copies noted in the history,
whatever was edited, answered or tried in vain between them, and however often time was looked at. A
moment is forgotten only when it has no more say, so that no later look can tell the difference. -/

namespace AnalysisDesk.Desk

open AnalysisDesk.Editor (Clipboard ClipboardFault confirmationTime)

/-! ## What the history tells of copies -/

/-- An attempt to copy the source. -/
structure CopyAttempt where
  /-- When it was made. -/
  moment : Nat
  /-- The text that the clipboard took, or why it took none. -/
  result : Except ClipboardFault (List Char)

namespace CopyAttempt

/-- The moment and the text of a copy, if the attempt made one. -/
def copy? (attempt : CopyAttempt) : Option (Nat × List Char) :=
  match attempt.result with
  | .ok text => some (attempt.moment, text)
  | .error _ => none

/-- The trouble with the clipboard, if the attempt made no copy. -/
def trouble? (attempt : CopyAttempt) : Option String :=
  match attempt.result with
  | .ok _ => none
  | .error fault => some fault.message

theorem trouble?_eq_some_iff {attempt : CopyAttempt} {message : String} :
    attempt.trouble? = some message ↔
      ∃ fault, attempt.result = .error fault ∧ fault.message = message := by
  unfold trouble?
  cases attempt.result with
  | ok text => simp
  | error fault => simp

end CopyAttempt

/-- The attempts to copy the source, in order. -/
def copyAttemptsOf (history : List Note) : List CopyAttempt :=
  history.filterMap fun
    | .copied now text => some ⟨now, .ok text⟩
    | .copyFailed now fault => some ⟨now, .error fault⟩
    | _ => none

/-- The moments and the texts of the copies that were made, in order. -/
def copiesOf (history : List Note) : List (Nat × List Char) :=
  (copyAttemptsOf history).filterMap CopyAttempt.copy?

/-- The moments at which the user asked for a copy, in order. -/
def copyCommandsOf (history : List Note) : List Nat :=
  history.filterMap fun
    | .performed now .copy => some now
    | _ => none

/-- The moments that the editor was told of: those of copies asked for and of looks at the time. -/
def momentsOf (history : List Note) : List Nat :=
  history.filterMap fun
    | .performed now .copy => some now
    | .input (.tick now) => some now
    | _ => none

@[simp] theorem copyAttemptsOf_append (history notes : List Note) :
    copyAttemptsOf (history ++ notes) = copyAttemptsOf history ++ copyAttemptsOf notes :=
  List.filterMap_append

@[simp] theorem copyCommandsOf_append (history notes : List Note) :
    copyCommandsOf (history ++ notes) = copyCommandsOf history ++ copyCommandsOf notes :=
  List.filterMap_append

@[simp] theorem momentsOf_append (history notes : List Note) :
    momentsOf (history ++ notes) = momentsOf history ++ momentsOf notes :=
  List.filterMap_append

theorem momentsOf_subset {history history' : List Note} (h : history <+: history') :
    momentsOf history ⊆ momentsOf history' :=
  (h.sublist.filterMap _).subset

/-- Notes of no request for a copy and of no attempt. -/
def CopyFree (notes : List Note) : Prop := copyAttemptsOf notes = [] ∧ copyCommandsOf notes = []

/-! ## What the desk keeps of copies -/

/-- What the desk and its clipboard keep of the copies. -/
structure CopyState where
  /-- When the last copy was made, until its confirmation is dropped. -/
  copiedAt : Option Nat
  /-- The trouble with the clipboard, if it has not gone away. -/
  status : Option String
  /-- The texts that the clipboard took. -/
  writes : List (List Char)

namespace CopyState

/-- Time is looked at. -/
def tick (c : CopyState) (now : Nat) : CopyState :=
  { c with copiedAt := c.copiedAt.filter fun copied => now - copied < confirmationTime }

/-- An attempt to copy is made. One that fails leaves the confirmation of the last copy up. -/
def attempt (c : CopyState) (a : CopyAttempt) : CopyState :=
  match a.result with
  | .ok text => ⟨some a.moment, none, c.writes ++ [text]⟩
  | .error fault => { c with status := some fault.message }

/-- **What is kept agrees with the history**, for a clipboard that held some texts before. -/
structure Agrees (before : List (List Char)) (history : List Note) (c : CopyState) : Prop where
  /-- A moment that is kept is the moment of the last copy. -/
  kept : ∀ copied, c.copiedAt = some copied →
    ∃ text, (copiesOf history).getLast? = some (copied, text)
  /-- If none is kept, the last copy was confirmed for its time. -/
  dropped : c.copiedAt = none → ∀ copied text, (copiesOf history).getLast? = some (copied, text) →
    ∃ moment ∈ momentsOf history, copied + confirmationTime ≤ moment
  /-- The trouble is that of the last attempt. -/
  status_eq : c.status = (copyAttemptsOf history).getLast?.bind CopyAttempt.trouble?
  /-- The clipboard took the copies. -/
  writes_eq : c.writes = before ++ (copiesOf history).map (·.2)

variable {before : List (List Char)} {history history' : List Note} {c : CopyState}

/-- A confirmation that had its time had it, whatever else happens without a copy. -/
theorem Agrees.dropped_later (h : c.Agrees before history) (more : history <+: history')
    (copies : copiesOf history' = copiesOf history) (forgotten : c.copiedAt = none) (copied : Nat)
    (text : List Char) (last : (copiesOf history').getLast? = some (copied, text)) :
    ∃ moment ∈ momentsOf history', copied + confirmationTime ≤ moment := by
  rw [copies] at last
  obtain ⟨moment, mem, late⟩ := h.dropped forgotten copied text last
  exact ⟨moment, momentsOf_subset more mem, late⟩

/-- More of a history without an attempt changes nothing. -/
theorem Agrees.still (h : c.Agrees before history) (more : history <+: history')
    (attempts : copyAttemptsOf history' = copyAttemptsOf history) :
    c.Agrees before history' := by
  have copies : copiesOf history' = copiesOf history := congrArg (List.filterMap _) attempts
  refine ⟨?_, h.dropped_later more copies, ?_, ?_⟩
  · rw [copies]
    exact h.kept
  · rw [attempts]
    exact h.status_eq
  · rw [copies]
    exact h.writes_eq

/-- Time is looked at, and that is noted. -/
theorem Agrees.tick (h : c.Agrees before history) {now : Nat} (noted : now ∈ momentsOf history) :
    (c.tick now).Agrees before history := by
  refine ⟨fun copied kept => ?_, fun forgotten copied text last => ?_, h.status_eq, h.writes_eq⟩
  · exact h.kept copied (Option.filter_eq_some_iff.mp kept).1
  · cases copiedAt : c.copiedAt with
    | none => exact h.dropped copiedAt copied text last
    | some moment =>
      -- The moment is dropped just now, which is late enough, and it is that of the last copy.
      obtain ⟨text', last'⟩ := h.kept moment copiedAt
      have same : moment = copied := by
        rw [last] at last'
        cases last'
        rfl
      have late := Option.filter_eq_none_iff.mp forgotten moment copiedAt
      rw [decide_eq_true_eq] at late
      unfold confirmationTime at late ⊢
      exact ⟨now, noted, by omega⟩

/-- An attempt is made, and that is noted. -/
theorem Agrees.attempt (h : c.Agrees before history) {a : CopyAttempt} (more : history <+: history')
    (attempts : copyAttemptsOf history' = copyAttemptsOf history ++ [a]) :
    (c.attempt a).Agrees before history' := by
  have last : (copyAttemptsOf history').getLast? = some a := by
    rw [attempts, List.getLast?_concat]
  have copies : copiesOf history' = copiesOf history ++ a.copy?.toList := by
    unfold copiesOf
    rw [attempts, List.filterMap_append, List.filterMap_cons, List.filterMap_nil]
    cases a.copy? <;> rfl
  obtain ⟨now, result⟩ := a
  cases result with
  | ok text =>
    have copied : copiesOf history' = copiesOf history ++ [(now, text)] := copies
    refine ⟨fun moment kept => ?_, fun forgotten => ?_, ?_, ?_⟩
    · cases kept
      exact ⟨text, by rw [copied, List.getLast?_concat]⟩
    · cases forgotten
    · rw [last]
      rfl
    · change c.writes ++ [text] = _
      rw [copied, List.map_append, h.writes_eq, List.append_assoc]
      rfl
  | error fault =>
    -- The copies are the same, and only the trouble is news.
    have same : copiesOf history' = copiesOf history := copies.trans (List.append_nil _)
    refine ⟨?_, h.dropped_later more same, ?_, ?_⟩
    · rw [same]
      exact h.kept
    · rw [last]
      rfl
    · rw [same]
      exact h.writes_eq

end CopyState

/-- What the user's work keeps of the copies. -/
def Work.copyState (w : Work) : CopyState := ⟨w.copiedAt, w.status, w.clipboard.writes⟩

/-! ## What a step does to copies -/

namespace Traffic

variable {σ : Type} {answers : Answering σ} {start t t' : Traffic σ}

/-- What the desk and its clipboard keep of the copies. -/
def copyState (t : Traffic σ) : CopyState := (t.desk.work t.clipboard []).copyState

/-- What an attempt to copy would come to: the clipboard takes the source as it stands, or not. -/
def copyResult (t : Traffic σ) : Except ClipboardFault (List Char) :=
  (t.clipboard.write t.desk.surface.snapshot).map fun _ => t.desk.surface.snapshot

/-- **What a step does** to what is kept and told of copies. -/
inductive CopyEffect (t t' : Traffic σ) : Prop
  /-- It has nothing to do with copies. -/
  | still (kept : t'.copyState = t.copyState)
      (attempts : copyAttemptsOf t'.history = copyAttemptsOf t.history)
      (commands : copyCommandsOf t'.history = copyCommandsOf t.history)
  /-- Time is looked at. -/
  | tick (now : Nat) (kept : t'.copyState = t.copyState.tick now)
      (noted : now ∈ momentsOf t'.history)
      (attempts : copyAttemptsOf t'.history = copyAttemptsOf t.history)
      (commands : copyCommandsOf t'.history = copyCommandsOf t.history)
  /-- An attempt is made. -/
  | attempt (now : Nat) (kept : t'.copyState = t.copyState.attempt ⟨now, t.copyResult⟩)
      (attempts : copyAttemptsOf t'.history = copyAttemptsOf t.history ++ [⟨now, t.copyResult⟩])
      (commands : copyCommandsOf t'.history = copyCommandsOf t.history ++ [now])

/-- A change of something else, with notes of something else. -/
theorem CopyEffect.frame {notes : List Note} (free : CopyFree notes)
    (kept : t'.copyState = t.copyState) (history : t'.history = t.history ++ notes) :
    CopyEffect t t' := by
  refine .still kept ?_ ?_
  · rw [history, copyAttemptsOf_append, free.1, List.append_nil]
  · rw [history, copyCommandsOf_append, free.2, List.append_nil]

/-- Notes of something else may go before. -/
theorem CopyEffect.after_note {notes : List Note} (free : CopyFree notes)
    (effect : CopyEffect (t.note notes) t') : CopyEffect t t' := by
  have attempts : copyAttemptsOf (t.note notes).history = copyAttemptsOf t.history := by
    rw [note, copyAttemptsOf_append, free.1, List.append_nil]
  have commands : copyCommandsOf (t.note notes).history = copyCommandsOf t.history := by
    rw [note, copyCommandsOf_append, free.2, List.append_nil]
  cases effect with
  | still kept attempts' commands' =>
    exact .still kept (attempts'.trans attempts) (commands'.trans commands)
  | tick now kept noted attempts' commands' =>
    exact .tick now kept noted (attempts'.trans attempts) (commands'.trans commands)
  | attempt now kept attempts' commands' =>
    rw [attempts] at attempts'
    rw [commands] at commands'
    exact .attempt now kept attempts' commands'

theorem copyEffect_submit (t : Traffic σ) (starts : Bool) : CopyEffect t (t.submit starts) := by
  unfold submit
  split
  · exact .still rfl rfl rfl
  · cases starts with
    | true => exact .frame ⟨rfl, rfl⟩ rfl rfl
    | false => exact .frame ⟨rfl, rfl⟩ rfl rfl

/-- A copy that the clipboard takes. -/
theorem copy_of_ok {clipboard : Clipboard} (now : Nat)
    (written : t.clipboard.write t.desk.surface.snapshot = .ok clipboard) : t.copy now =
      { t with desk := { t.desk with surface.copiedAt := some now, status := none }
               clipboard }.note [.copied now t.desk.surface.snapshot] := by
  unfold Traffic.copy Editor.Surface.copy
  rw [written]
  rfl

/-- A copy that the clipboard does not take. -/
theorem copy_of_error {fault : ClipboardFault} (now : Nat)
    (unwritten : t.clipboard.write t.desk.surface.snapshot = .error fault) : t.copy now =
      { t with desk := { t.desk with status := some fault.message } }.note
        [.copyFailed now fault] := by
  unfold Traffic.copy Editor.Surface.copy
  rw [unwritten]
  rfl

/-- A copy that is asked for is attempted, once. -/
theorem copyEffect_copy (t : Traffic σ) (now : Nat) :
    CopyEffect t ((t.note [.performed now .copy]).copy now) := by
  cases written : t.clipboard.write t.desk.surface.snapshot with
  | ok clipboard =>
    have result : t.copyResult = .ok t.desk.surface.snapshot := by
      rw [copyResult, written]
      rfl
    rw [copy_of_ok (t := t.note [.performed now .copy]) now written]
    refine .attempt now ?_ ?_ ?_
    · rw [result]
      change (⟨some now, none, clipboard.writes⟩ : CopyState) = ⟨some now, none, _⟩
      rw [Clipboard.writes_of_write written]
      rfl
    · rw [result]
      simp [note, copyAttemptsOf]
    · simp [note, copyCommandsOf]
  | error fault =>
    have result : t.copyResult = .error fault := by
      rw [copyResult, written]
      rfl
    rw [copy_of_error (t := t.note [.performed now .copy]) now written]
    refine .attempt now ?_ ?_ ?_
    · rw [result]
      rfl
    · rw [result]
      simp [note, copyAttemptsOf]
    · simp [note, copyCommandsOf]

theorem copyEffect_perform (t : Traffic σ) (starts : Bool) (now : Nat) (command : Command) :
    CopyEffect t (t.perform starts now command) := by
  cases command with
  | copy => exact copyEffect_copy t now
  | submit => exact .after_note ⟨rfl, rfl⟩ (copyEffect_submit _ starts)
  | scroll move =>
    exact .frame ⟨rfl, rfl⟩ (congrArg Work.copyState (t.desk.work_scroll _ [] move)) rfl
  | quit | cyclePanel | edit => exact .frame ⟨rfl, rfl⟩ rfl rfl

theorem copyEffect_press (t : Traffic σ) (starts : Bool) (now : Nat) (key : Key) :
    CopyEffect t (t.press starts now key) := by
  unfold press
  split
  · exact .still rfl rfl rfl
  · exact copyEffect_perform t starts now _

/-- What an input does to copies. -/
theorem copyEffect_take (t : Traffic σ) (starts : Bool) (input : Input) :
    CopyEffect t (t.take starts input) := by
  have free {i : Input} : CopyFree [.input i] := ⟨rfl, rfl⟩
  cases input with
  | key now key => exact .after_note free (copyEffect_press _ starts now key)
  | command now command => exact .after_note free (copyEffect_perform _ starts now command)
  | tick now =>
    have noted : now ∈ momentsOf (t.history ++ [.input (.tick now)]) := by
      rw [momentsOf_append]
      exact List.mem_append_right _ (List.mem_singleton_self now)
    refine .tick now (congrArg Work.copyState (t.desk.work_tick _ [] now)) noted ?_ ?_
    · exact (copyAttemptsOf_append ..).trans (List.append_nil _)
    · exact (copyCommandsOf_append ..).trans (List.append_nil _)
  | display outcome =>
    exact .frame free (congrArg Work.copyState (t.desk.work_display _ [] outcome)) rfl
  | setText | draw | shownIn | clipboard => exact .frame free rfl rfl

/-- **What any step does to copies.** -/
theorem Step.copyEffect (step : Step answers t t') : CopyEffect t t' := by
  cases step with
  | input _ starts input => exact copyEffect_take t starts input
  | answer | arrive | drain | wait => exact .still rfl rfl rfl
  | @drainOne _ arrival _ first | @waitOne _ _ arrival _ first =>
    exact .frame ⟨rfl, rfl⟩ (congrArg Work.copyState (t.desk.work_receive _ [] arrival)) rfl
  | drained | answered | timeUp => exact .frame ⟨rfl, rfl⟩ rfl rfl

/-! ## What a run tells of copies -/

/-- What is kept agrees with the history after a step, if it did before. -/
theorem Step.agrees {before : List (List Char)} (step : Step answers t t')
    (h : t.copyState.Agrees before t.history) : t'.copyState.Agrees before t'.history := by
  have more : t.history <+: t'.history := step.effect.history_prefix
  cases step.copyEffect with
  | still kept attempts =>
    rw [kept]
    exact h.still more attempts
  | tick now kept noted attempts =>
    rw [kept]
    exact (h.still more attempts).tick noted
  | attempt now kept attempts =>
    rw [kept]
    exact h.attempt more attempts

/-- What is kept agrees with the history of every run. -/
theorem Run.agrees {before : List (List Char)} (run : Run answers t t')
    (h : t.copyState.Agrees before t.history) : t'.copyState.Agrees before t'.history := by
  induction run with
  | refl => exact h
  | tail _ step ih => exact step.agrees ih

/-- Every request for a copy came to one attempt at that moment. -/
theorem Run.attempted (run : Run answers t t')
    (h : (copyAttemptsOf t.history).map (·.moment) = copyCommandsOf t.history) :
    (copyAttemptsOf t'.history).map (·.moment) = copyCommandsOf t'.history := by
  induction run with
  | refl => exact h
  | tail _ step ih =>
    cases step.copyEffect with
    | still _ attempts commands => rw [attempts, commands, ih]
    | tick _ _ _ attempts commands => rw [attempts, commands, ih]
    | attempt now _ attempts commands =>
      rw [attempts, commands, List.map_append, ih]
      rfl

/-- A step of a run made an attempt after some others, with the source and the clipboard as they
were at that moment. -/
def AttemptMade (answers : Answering σ) (start t : Traffic σ) (before : List CopyAttempt)
    (attempt : CopyAttempt) : Prop :=
  ∃ u u', Run answers start u ∧ Step answers u u' ∧ Run answers u' t ∧
    copyAttemptsOf u.history = before ∧ copyAttemptsOf u'.history = before ++ [attempt] ∧
    attempt.result = u.copyResult

theorem AttemptMade.tail {before : List CopyAttempt} {attempt : CopyAttempt}
    (made : AttemptMade answers start t before attempt) (step : Step answers t t') :
    AttemptMade answers start t' before attempt := by
  obtain ⟨u, u', first, now, later, told⟩ := made
  exact ⟨u, u', first, now, later.tail step, told⟩

/-- Every attempt that is told of was made. -/
theorem Run.attemptMade (run : Run answers start t) (fresh : copyAttemptsOf start.history = [])
    {before after : List CopyAttempt} {attempt : CopyAttempt}
    (told : copyAttemptsOf t.history = before ++ attempt :: after) :
    AttemptMade answers start t before attempt := by
  induction run generalizing after with
  | refl =>
    rw [fresh] at told
    exact absurd told.symm (List.append_ne_nil_of_right_ne_nil _ (List.cons_ne_nil _ _))
  | @tail t t' run step ih =>
    cases step.copyEffect with
    | still _ attempts => exact (ih (attempts.symm.trans told)).tail step
    | tick _ _ _ attempts => exact (ih (attempts.symm.trans told)).tail step
    | attempt now _ attempts =>
      rw [attempts] at told
      -- The attempt is the one just made, or one of those before it.
      rcases List.eq_nil_or_concat after with rfl | ⟨rest, last, rfl⟩
      · obtain ⟨others, same⟩ := List.append_inj' told rfl
        cases same
        exact ⟨t, t', run, step, .refl, others, by rw [attempts, others], rfl⟩
      · rw [List.concat_eq_append, ← List.cons_append, ← List.append_assoc] at told
        exact (ih (List.append_inj' told rfl).1).tail step

/-! ## The confirmation over whole runs -/

/-- **What the user can tell of copies**, at the end of a run. -/
structure CopiesConfirmed (answers : Answering σ) (start t : Traffic σ) : Prop where
  /-- Each request for a copy is one attempt, at its moment. -/
  attempted : (copyAttemptsOf t.history).map (·.moment) = copyCommandsOf t.history
  /-- Each attempt offered the clipboard the source as it stood at that moment. -/
  made : ∀ before attempt after, copyAttemptsOf t.history = before ++ attempt :: after →
    AttemptMade answers start t before attempt
  /-- The clipboard took the copies, in order. -/
  writes_eq : t.clipboard.writes = start.clipboard.writes ++ (copiesOf t.history).map (·.2)
  /-- Trouble is shown if and only if the last attempt came to it. -/
  status_iff : ∀ message, t.desk.status = some message ↔ ∃ attempt fault,
    (copyAttemptsOf t.history).getLast? = some attempt ∧ attempt.result = .error fault ∧
      fault.message = message
  /-- At any moment not before those the editor was told of, the confirmation is up if and only if
  there is a last copy and its time is not over. -/
  confirms_iff : ∀ now, (∀ moment ∈ momentsOf t.history, moment ≤ now) →
    (t.desk.surface.confirms now = true ↔ ∃ copied text,
      (copiesOf t.history).getLast? = some (copied, text) ∧ now - copied < confirmationTime)
  /-- Nothing but another copy changes whether it is up at a later moment. -/
  confirms_later : ∀ t', Run answers t t' → copiesOf t'.history = copiesOf t.history →
    ∀ now, (∀ moment ∈ momentsOf t'.history, moment ≤ now) →
      t'.desk.surface.confirms now = t.desk.surface.confirms now
  /-- A look at the time does not. -/
  confirms_tick : ∀ starts moment now, moment ≤ now →
    (t.take starts (.tick moment)).desk.surface.confirms now = t.desk.surface.confirms now
  /-- An attempt that fails does not. -/
  confirms_failed : ∀ starts moment now, t.clipboard.fault ≠ none →
    (t.take starts (.command moment .copy)).desk.surface.confirms now =
      t.desk.surface.confirms now
  /-- An edit does not. -/
  confirms_edit : ∀ starts moment e now,
    (t.take starts (.command moment (.edit e))).desk.surface.confirms now =
      t.desk.surface.confirms now
  /-- Right after a look at the time, the confirmation is drawn if and only if it is up. -/
  pending_tick : ∀ starts now, (t.take starts (.tick now)).desk.surface.pending =
    (t.take starts (.tick now)).desk.surface.confirms now

/-- A new desk keeps nothing of copies, and nothing is told of any. -/
theorem agrees_opening (source : List Char) (imageUrl : Option String) (clipboard : Clipboard)
    (service : σ) :
    (opening source imageUrl clipboard service).copyState.Agrees clipboard.writes [] := by
  refine ⟨fun _ kept => ?_, fun _ _ _ last => ?_, rfl, (List.append_nil _).symm⟩
  · cases kept
  · cases last

/-- What is kept decides about the confirmation just as the last copy does. -/
theorem confirms_iff_of_agrees {before : List (List Char)}
    (h : t.copyState.Agrees before t.history) {now : Nat}
    (latest : ∀ moment ∈ momentsOf t.history, moment ≤ now) :
    t.desk.surface.confirms now = true ↔ ∃ copied text,
      (copiesOf t.history).getLast? = some (copied, text) ∧ now - copied < confirmationTime := by
  rw [Editor.Surface.confirms_eq_true_iff]
  constructor
  · rintro ⟨copied, kept, up⟩
    obtain ⟨text, last⟩ := h.kept copied kept
    exact ⟨copied, text, last, up⟩
  · rintro ⟨copied, text, last, up⟩
    cases copiedAt : t.desk.surface.copiedAt with
    | some moment =>
      obtain ⟨text', last'⟩ := h.kept moment copiedAt
      rw [last] at last'
      cases last'
      exact ⟨copied, rfl, up⟩
    | none =>
      -- The moment was dropped when its time was over, which is not later than now.
      obtain ⟨moment, mem, late⟩ := h.dropped copiedAt copied text last
      have := latest moment mem
      omega

/-- An attempt at a broken clipboard leaves the editor as it is. -/
theorem surface_copy_of_fault (t : Traffic σ) (now : Nat) (broken : t.clipboard.fault ≠ none) :
    (t.copy now).desk.surface = t.desk.surface := by
  obtain ⟨cause, fault⟩ := Option.ne_none_iff_exists'.mp broken
  have unwritten : t.clipboard.write t.desk.surface.snapshot = .error ⟨cause⟩ := by
    rw [Clipboard.write, fault]
  rw [copy_of_error now unwritten]
  rfl

/-- **The confirmation follows the last copy** through every run, in whatever order moments are
told, and the clipboard holds what was copied. -/
theorem copies_confirmed {source : List Char} {imageUrl : Option String} {clipboard : Clipboard}
    {service : σ} (run : Run answers (opening source imageUrl clipboard service) t) :
    CopiesConfirmed answers (opening source imageUrl clipboard service) t := by
  have agrees := run.agrees (agrees_opening source imageUrl clipboard service)
  refine ⟨Run.attempted run rfl, fun before attempt after told => Run.attemptMade run rfl told,
    agrees.writes_eq, fun message => ?_, fun now => confirms_iff_of_agrees agrees,
    fun t' later same now latest => ?_, fun starts moment now => Editor.Surface.confirms_tick _,
    fun starts moment now broken => ?_, fun starts moment e now => rfl, fun starts now => ?_⟩
  · have status : t.desk.status = _ := agrees.status_eq
    rw [status, Option.bind_eq_some_iff]
    simp only [CopyAttempt.trouble?_eq_some_iff, exists_and_left]
  · have grown := momentsOf_subset (history_prefix_of_run later)
    refine Bool.eq_iff_iff.mpr ?_
    rw [confirms_iff_of_agrees (Run.agrees later agrees) latest,
      confirms_iff_of_agrees agrees fun moment mem => latest moment (grown mem), same]
  · let asked := (t.note [.input (.command moment .copy)]).note [.performed moment .copy]
    exact congrArg (·.confirms now) (surface_copy_of_fault asked moment broken)
  · exact (Editor.Surface.pending_tick _ now).trans (Editor.Surface.confirms_tick _ now.le_refl).symm

/-- A desk with two copies and an edit between them, at which a third copy fails. -/
def recopied : Traffic Unit :=
  let t := (opening ['x'] none .empty ()).take true (.command 0 .copy)
  let t := (t.take true (.key 100 (.plain 'y'))).take true (.command 1500 .copy)
  let t := (t.take true (.clipboard (some "gone"))).take true (.command 1600 .copy)
  t.take true (.tick 3000)

theorem recopied_confirmed :
    CopiesConfirmed (fun _ _ _ _ => True) (opening ['x'] none .empty ()) recopied ∧
      recopied.desk.surface.confirms 3499 = true ∧ recopied.desk.surface.confirms 3500 = false ∧
      recopied.clipboard.writes = [['x'], ['y', 'x']] ∧
      recopied.desk.status = some (ClipboardFault.message ⟨"gone"⟩) := by
  have run : Run (fun _ _ _ _ => True) (opening ['x'] none .empty ()) recopied := by
    refine .tail (.tail (.tail (.tail (.tail (.tail .refl
      (.input rfl true (.command 0 .copy))) (.input rfl true (.key 100 (.plain 'y'))))
      (.input rfl true (.command 1500 .copy))) (.input rfl true (.clipboard (some "gone"))))
      (.input rfl true (.command 1600 .copy))) (.input rfl true (.tick 3000))
  exact ⟨copies_confirmed run, rfl, rfl, by decide, rfl⟩

end Traffic
end AnalysisDesk.Desk
