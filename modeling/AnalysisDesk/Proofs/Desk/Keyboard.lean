import AnalysisDesk.Proofs.Desk.Bindings
import AnalysisDesk.Proofs.Desk.Confirmation
import AnalysisDesk.Proofs.Desk.Surfaces
import AnalysisDesk.Proofs.Desk.Waiting

/-! # What keys touch
All that a key can touch is in front of the user: the desk and the clipboard. A key does one command
or nothing, and a command does one of a few things to what is in front, so a key leaves alone all that
it is not bound to. What holds of one key carries over to keys in a row, at a desk among its workers
and in a session alike. -/

namespace AnalysisDesk.Desk

open AnalysisDesk.Editor (Buffer Clipboard ClipboardFault Edit)

/-- What is in front of the user. -/
structure Front where
  /-- The desk. -/
  desk : State
  /-- The clipboard that copies go to. -/
  clipboard : Clipboard

namespace Front

variable {f f' : Front} {key : Key} {command : Command}

/-! ## What one key touches -/

/-- **Everything that a command can do** to what is in front of the user. -/
inductive Reacts (f : Front) : Command → Front → Prop
  | quit : Reacts f .quit { f with desk := f.desk.quit }
  /-- An empty source is not submitted. -/
  | empty (nothing : f.desk.surface.snapshot = []) : Reacts f .submit f
  /-- Any other source is submitted, whether or not a worker can be started for it. -/
  | submitted (source : f.desk.surface.snapshot ≠ []) (started : Bool) :
      Reacts f .submit { f with desk := f.desk.submitted started }
  /-- The clipboard takes the source. -/
  | copied (now : Nat) {clipboard : Clipboard}
      (written : f.clipboard.write f.desk.surface.snapshot = .ok clipboard) :
      Reacts f .copy ⟨{ f.desk with surface.copiedAt := some now, status := none }, clipboard⟩
  /-- The clipboard takes nothing. -/
  | refused {fault : ClipboardFault}
      (unwritten : f.clipboard.write f.desk.surface.snapshot = .error fault) :
      Reacts f .copy { f with desk := { f.desk with status := some fault.message } }
  | cyclePanel : Reacts f .cyclePanel { f with desk := f.desk.cyclePanel }
  | edit (e : Edit) : Reacts f (.edit e) { f with desk := f.desk.edit e }
  /-- There are no lines to move over in the editor. -/
  | still (move : Scroll) (editor : f.desk.panel = .editor) : Reacts f (.scroll move) f
  | tokens (move : Scroll) (here : f.desk.panel = .tokens) :
      Reacts f (.scroll move) { f with desk := { f.desk with tokens := f.desk.tokens.move move } }
  | tree (move : Scroll) (here : f.desk.panel = .tree) :
      Reacts f (.scroll move) { f with desk := { f.desk with tree := f.desk.tree.move move } }

/-- What a move over the lines does depends on the panel that has the keyboard. -/
theorem reacts_scroll (f : Front) (move : Scroll) :
    f.Reacts (.scroll move) { f with desk := f.desk.scroll move } := by
  cases here : f.desk.panel with
  | editor =>
    have still : f.desk.scroll move = f.desk := by simp only [State.scroll, here]
    rw [still]
    exact .still move here
  | tokens =>
    have moved : f.desk.scroll move = { f.desk with tokens := f.desk.tokens.move move } := by
      simp only [State.scroll, here]
    rw [moved]
    exact .tokens move here
  | tree =>
    have moved : f.desk.scroll move = { f.desk with tree := f.desk.tree.move move } := by
      simp only [State.scroll, here]
    rw [moved]
    exact .tree move here

/-- **A key touches only what it is bound to**: each part of what is in front of the user is the same
after the key, or has changed for a reason that the key gives. -/
structure Bound (key : Key) (f f' : Front) : Prop where
  /-- A key that comes up changes nothing. -/
  released : key.kind = .release → f' = f
  /-- The texts of the viewers, the last analysis and the complaint stay. -/
  shown : f'.desk.shown = f.desk.shown
  /-- The address of the image stays. -/
  imageUrl : f'.desk.imageUrl = f.desk.imageUrl
  /-- The first row of the source that is shown stays. -/
  firstRow : f'.desk.surface.scroll = f.desk.surface.scroll
  /-- The source and its cursor change in the editor only, by a key that is not bound in every panel
  and with Control and Alt both held or neither. -/
  buffer : f'.desk.surface.buffer ≠ f.desk.surface.buffer →
    f.desk.panel = .editor ∧ ¬key.Global ∧ key.modifiers.control = key.modifiers.alt
  /-- The tokens are moved over in their own panel only. -/
  tokens : f'.desk.tokens.scroll ≠ f.desk.tokens.scroll → f.desk.panel = .tokens
  /-- The parse tree is moved over in its own panel only. -/
  tree : f'.desk.tree.scroll ≠ f.desk.tree.scroll → f.desk.panel = .tree
  /-- A request is made only by the keys that submit, and of a source that is not empty. -/
  requests : f'.desk.counters ≠ f.desk.counters →
    key.Calls .submit ∧ f.desk.surface.snapshot ≠ []
  /-- The clipboard is written to only by the keys that copy. -/
  clipboard : f'.clipboard ≠ f.clipboard → key.Calls .copy
  /-- The confirmation of a copy changes only by the same keys. -/
  copiedAt : f'.desk.surface.copiedAt ≠ f.desk.surface.copiedAt → key.Calls .copy
  /-- So does the trouble with the clipboard. -/
  status : f'.desk.status ≠ f.desk.status → key.Calls .copy
  /-- The keyboard goes to another panel only by the keys that cycle the panels, and to the next. -/
  panel : f'.desk.panel ≠ f.desk.panel →
    key.Calls .cyclePanel ∧ f'.desk.panel = f.desk.panel.next
  /-- The wish to quit is never taken back and comes only from the keys that quit. -/
  quitting : f'.desk.quitting ≠ f.desk.quitting → key.Calls .quit ∧ f'.desk.quitting = true

/-- Nothing is touched at all. -/
theorem Bound.refl (key : Key) (f : Front) : Bound key f f where
  released _ := rfl
  shown := rfl
  imageUrl := rfl
  firstRow := rfl
  buffer changed := absurd rfl changed
  tokens changed := absurd rfl changed
  tree changed := absurd rfl changed
  requests changed := absurd rfl changed
  clipboard changed := absurd rfl changed
  copiedAt changed := absurd rfl changed
  status changed := absurd rfl changed
  panel changed := absurd rfl changed
  quitting changed := absurd rfl changed

/-- **What a key asks for** touches only what the key is bound to. -/
theorem Reacts.bound (reacts : f.Reacts command f') (down : key.kind ≠ .release)
    (asks : key.Asks f.desk.panel command) : Bound key f f' := by
  have same := Bound.refl key f
  have down (g : Front) (up : key.kind = .release) : g = f := absurd up down
  -- Each command leaves alone all but the parts that are named in its case.
  cases reacts with
  | quit =>
    cases asks with
    | everywhere calls => exact { same with released := down _, quitting := fun _ => ⟨calls, rfl⟩ }
  | empty => exact same
  | submitted source =>
    cases asks with
    | everywhere calls => exact { same with released := down _, requests := fun _ => ⟨calls, source⟩ }
  | copied =>
    cases asks with
    | everywhere calls =>
      exact { same with
        released := down _, clipboard := fun _ => calls, copiedAt := fun _ => calls
        status := fun _ => calls }
  | refused =>
    cases asks with
    | everywhere calls => exact { same with released := down _, status := fun _ => calls }
  | cyclePanel =>
    cases asks with
    | everywhere calls => exact { same with released := down _, panel := fun _ => ⟨calls, rfl⟩ }
  | edit e =>
    cases asks with
    | everywhere calls => exact calls.elim
    | edit free editor even =>
      exact { same with released := down _, buffer := fun _ => ⟨editor, free, even⟩ }
  | still => exact same
  | tokens move here =>
    exact { same with
      released := down _, tokens := fun _ => here
      shown := by simp only [State.shown, Viewer.text_move] }
  | tree move here =>
    exact { same with
      released := down _, tree := fun _ => here
      shown := by simp only [State.shown, Viewer.text_move] }

end Front

/-! ## Keyboards -/

/-- A desk at work that takes keys, each with what else decides what the key does. -/
structure Keyboard (α γ : Type) where
  /-- What is in front of the user. -/
  front : α → Front
  /-- The key that is taken. -/
  key : γ → Key
  /-- Take a key. -/
  press : α → γ → α
  /-- A key that asks for nothing does nothing. -/
  press_of_none : ∀ a g, (key g).command? (front a).desk.panel = none → press a g = a
  /-- Any other key does the command that it asks for. -/
  reacts : ∀ a g command, (key g).command? (front a).desk.panel = some command →
    (front a).Reacts command (front (press a g))

namespace Keyboard

variable {α γ : Type} (k : Keyboard α γ)

/-- A key that comes up does nothing. -/
theorem press_of_release {a : α} {g : γ} (up : (k.key g).kind = .release) : k.press a g = a :=
  k.press_of_none a g (Key.command?_release up _)

/-- **Every key** touches only what it is bound to. -/
theorem bound_press (a : α) (g : γ) : (k.front a).Bound (k.key g) (k.front (k.press a g)) := by
  cases asked : (k.key g).command? (k.front a).desk.panel with
  | none =>
    rw [k.press_of_none a g asked]
    exact .refl (k.key g) (k.front a)
  | some command =>
    obtain ⟨down, asks⟩ := Key.command?_eq_some_iff.mp asked
    exact (k.reacts a g command asked).bound down asks

/-! ### Keys in a row -/

/-- **Keys outside the editor** leave the source and its cursor alone, whatever they are. -/
theorem buffer_of_outside (gs : List γ) {a : α}
    (outside : ∀ before g after, gs = before ++ g :: after →
      (k.front (before.foldl k.press a)).desk.panel ≠ .editor) :
    (k.front (gs.foldl k.press a)).desk.surface.buffer = (k.front a).desk.surface.buffer := by
  induction gs generalizing a with
  | nil => rfl
  | cons g rest ih =>
    -- The first key is not taken in the editor, and neither are the others once it has been.
    have first : (k.front a).desk.panel ≠ .editor := outside [] g rest rfl
    have kept : (k.front (k.press a g)).desk.surface.buffer = (k.front a).desk.surface.buffer := by
      by_contra changed
      exact first ((k.bound_press a g).buffer changed).1
    have later := ih fun before g' after split =>
      outside (g :: before) g' after (by rw [split, List.cons_append])
    rw [List.foldl_cons, later, kept]

/-- A key that puts in a character, in the editor. -/
theorem desk_press_of_types {a : α} {g : γ} {c : Char} (types : (k.key g).Types c)
    (editor : (k.front a).desk.panel = .editor) :
    (k.front (k.press a g)).desk = (k.front a).desk.edit (.char c) := by
  have asked : (k.key g).command? (k.front a).desk.panel = some (.edit (.char c)) := by
    rw [editor, types.command?_editor]
  have reacts := k.reacts a g _ asked
  generalize k.front (k.press a g) = after at reacts
  cases reacts with
  | edit => rfl

/-- Keys that put in characters, in the editor, are edits one after another. -/
theorem buffer_of_types {gs : List γ} {text : List Char}
    (types : List.Forall₂ (fun g c => (k.key g).Types c) gs text) {a : α}
    (editor : (k.front a).desk.panel = .editor) :
    (k.front (gs.foldl k.press a)).desk.surface.buffer =
      (text.map .char).foldl Buffer.edit (k.front a).desk.surface.buffer := by
  induction types generalizing a with
  | nil => rfl
  | @cons g c gs text types _ ih =>
    -- A character leaves the keyboard in the editor for the next one.
    have pressed := k.desk_press_of_types types editor
    have still : (k.front (k.press a g)).desk.panel = .editor := by
      rw [pressed]
      exact editor
    rw [List.foldl_cons, ih still, pressed]
    rfl

/-- **What keys touch** at a desk that takes them. -/
structure KeepsToBindings : Prop where
  /-- A key that comes up changes nothing at all. -/
  released : ∀ a g, (k.key g).kind = .release → k.press a g = a
  /-- Any key touches only what it is bound to. -/
  bound : ∀ a g, (k.front a).Bound (k.key g) (k.front (k.press a g))
  /-- Keys that are all taken outside the editor leave the source and its cursor as they were. -/
  outside : ∀ a gs, (∀ before g after, gs = before ++ g :: after →
      (k.front (before.foldl k.press a)).desk.panel ≠ .editor) →
    (k.front (gs.foldl k.press a)).desk.surface.buffer = (k.front a).desk.surface.buffer
  /-- Character keys that are all taken in the editor put in their characters at the cursor. -/
  typed : ∀ a gs text, List.Forall₂ (fun g c => (k.key g).Types c) gs text →
    (k.front a).desk.panel = .editor → (k.front a).desk.surface.buffer.WellFormed →
      (k.front a).desk.surface.buffer.edit? (.text text) =
        some (k.front (gs.foldl k.press a)).desk.surface.buffer ∧
      (k.front (gs.foldl k.press a)).desk.surface.buffer.caretText =
        (k.front a).desk.surface.buffer.caretText.insert text

/-- What keys touch, at any desk that takes them. -/
theorem keepsToBindings : k.KeepsToBindings where
  released _ _ up := k.press_of_release up
  bound := k.bound_press
  outside _ gs := k.buffer_of_outside gs
  typed a gs text types editor well := by
    rw [k.buffer_of_types types editor]
    exact well.foldl_char text

end Keyboard

/-! ## The keyboards of the desk -/

namespace Traffic

variable {σ : Type}

/-- What is in front of the user of a desk among its workers. -/
def front (t : Traffic σ) : Front := ⟨t.desk, t.clipboard⟩

/-- What a submission does. -/
theorem reacts_submit (t : Traffic σ) (starts : Bool) :
    t.front.Reacts .submit (t.submit starts).front := by
  by_cases empty : t.desk.surface.snapshot = []
  · have unsubmitted : t.submit starts = t := by
      unfold submit
      rw [State.submission?_of_eq_nil empty]
    rw [unsubmitted]
    exact .empty empty
  · have submitted : (t.submit starts).front = ⟨t.desk.submitted starts, t.clipboard⟩ := by
      unfold submit
      rw [State.submission?_of_ne_nil empty]
      cases starts with
      | true => rfl
      | false => rfl
    rw [submitted]
    exact .submitted empty starts

/-- What a copy does. -/
theorem reacts_copy (t : Traffic σ) (now : Nat) : t.front.Reacts .copy (t.copy now).front := by
  cases written : t.clipboard.write t.desk.surface.snapshot with
  | ok clipboard =>
    rw [copy_of_ok now written]
    exact .copied now written
  | error fault =>
    rw [copy_of_error now written]
    exact .refused written

/-- What a command does. -/
theorem reacts_perform (t : Traffic σ) (starts : Bool) (now : Nat) (command : Command) :
    t.front.Reacts command (t.perform starts now command).front := by
  cases command with
  | quit => exact .quit
  | submit => exact reacts_submit (t.note [.performed now .submit]) starts
  | copy => exact reacts_copy (t.note [.performed now .copy]) now
  | cyclePanel => exact .cyclePanel
  | edit e => exact .edit e
  | scroll move => exact t.front.reacts_scroll move

/-- The keyboard of a desk among its workers. Whether a worker can be started for a submission comes
with each key, and so does the moment. -/
def keyboard : Keyboard (Traffic σ) (Bool × Nat × Key) where
  front := front
  key g := g.2.2
  press t g := t.press g.1 g.2.1 g.2.2
  press_of_none t g none := by
    unfold press
    rw [show g.2.2.command? t.desk.panel = .none from none]
  reacts t g command asked := by
    unfold press
    rw [show g.2.2.command? t.desk.panel = some command from asked]
    exact reacts_perform t g.1 g.2.1 command

end Traffic

namespace Session

/-- What is in front of the user of a session. -/
def front (s : Session) : Front := ⟨s.desk, s.clipboard⟩

/-- Workers that deliver leave alone what is in front of the user. -/
theorem front_foldl_deliver (workers : List Worker) (s : Session) :
    (workers.foldl deliver s).front = s.front := by
  induction workers generalizing s with
  | nil => rfl
  | cons worker rest ih => exact ih (s.deliver worker)

/-- A command does to the front of a session what it does to the desk among its workers. -/
theorem front_perform (s : Session) (now : Nat) (command : Command) :
    (s.perform now command).front = ((s.traffic []).perform true now command).front := by
  cases command with
  | submit =>
    change s.submit.1.front = ((s.traffic [.performed now .submit]).submit true).front
    cases found : s.desk.submission? with
    | none =>
      have left : (s.traffic [.performed now .submit]).submit true =
          s.traffic [.performed now .submit] := by
        simp only [Traffic.submit, traffic, found]
      rw [submit_of_none found, left]
      rfl
    | some submission =>
      have sent : ((s.traffic [.performed now .submit]).submit true).front =
          (s.sent submission).front := by
        simp only [Traffic.submit, traffic, found, if_true]
        rfl
      rw [submit_of_some found, sent]
      -- A prompt session waits for the worker, which the user does not see.
      cases s.prompt with
      | true => exact front_foldl_deliver _ _
      | false => rfl
  | copy =>
    obtain ⟨notes, same⟩ := run_copy s [.performed now .copy] now
    exact congrArg Traffic.front same.symm
  | quit | cyclePanel | edit | scroll => rfl

/-- The keyboard of a session. The moment comes with each key. -/
def keyboard : Keyboard Session (Nat × Key) where
  front := front
  key g := g.2
  press s g := s.press g.1 g.2
  press_of_none s g none := by
    unfold press
    rw [show g.2.command? s.desk.panel = .none from none]
  reacts s g command asked := by
    unfold press
    rw [show g.2.command? s.desk.panel = some command from asked]
    change s.front.Reacts command (s.perform g.1 command).front
    rw [front_perform]
    exact (s.traffic []).reacts_perform true g.1 command

end Session

/-! ## All keyboards -/

/-- **Keys keep to what they are bound to**, at a desk among its workers and in a session, in any state
and whatever is held. A character key without Control and Alt puts in its character, and every desk
that is reached has a buffer to put it in. -/
theorem keys_keep_to_bindings :
    (∀ σ : Type, (@Traffic.keyboard σ).KeepsToBindings) ∧ Session.keyboard.KeepsToBindings ∧
      (∀ (key : Key) (c : Char), key.code = .char c → key.kind ≠ .release →
        key.modifiers.control = false → key.modifiers.alt = false → key.Types c) ∧
      (∀ {σ : Type} (answers : Answering σ) (source : List Char) (imageUrl : Option String)
        (clipboard : Clipboard) (service : σ) (t : Traffic σ),
        Traffic.Run answers (.opening source imageUrl clipboard service) t →
          t.desk.surface.buffer.WellFormed) ∧
      ∀ s : Session, s.Begins → ∀ calls, (s.calls calls).desk.surface.buffer.WellFormed := by
  refine ⟨fun _ => Traffic.keyboard.keepsToBindings, Session.keyboard.keepsToBindings,
    fun _ _ => Key.types_of_plain, fun _ _ _ _ _ _ run => run.wellFormed, fun s begins calls => ?_⟩
  obtain ⟨source, imageUrl, notes, run⟩ := begins.exists_run calls
  exact run.wellFormed

/-- A character key with Control and Alt held. -/
def composed (c : Char) : Key := ⟨.char c, { Modifiers.none with control := true, alt := true }, .press⟩

/-- A desk at which two characters are put in, one of them with Control and Alt held. -/
def struck : Traffic Unit :=
  [(true, 0, .plain 'x'), (true, 1, composed '@')].foldl Traffic.keyboard.press
    (.opening ['a'] none .empty ())

/-- The same desk with the keyboard at the tokens. -/
def turned : Traffic Unit := struck.press true 2 ⟨.function 2, .none, .press⟩

/-- The characters stand before the source, and keys in another panel do not add to them. -/
theorem struck_keeps_source :
    struck.desk.surface.buffer.caretText = ⟨['x', '@', 'a'], 2⟩ ∧
      turned.desk.surface.buffer = struck.desk.surface.buffer ∧
      ([(true, 3, .plain 'y'), (true, 4, composed 'z')].foldl Traffic.keyboard.press
        turned).desk.surface.buffer = turned.desk.surface.buffer := by
  obtain ⟨keeps, -, types, wellFormed, -⟩ := keys_keep_to_bindings
  have plain : (Key.plain 'x').Types 'x' := types _ _ rfl (by decide) rfl rfl
  have free : ¬(composed '@').Global := by
    rintro ⟨command, calls⟩
    cases command <;> simp [Key.Calls, composed] at calls
  have typed := (keeps Unit).typed (.opening ['a'] none .empty ())
    [(true, 0, .plain 'x'), (true, 1, composed '@')] ['x', '@']
    (.cons plain (.cons ⟨rfl, by decide, rfl, free⟩ .nil)) rfl
    (wellFormed (fun _ _ _ _ => True) ['a'] none .empty () _ .refl)
  refine ⟨typed.2, ?_, (keeps Unit).outside turned
    [(true, 3, .plain 'y'), (true, 4, composed 'z')] fun before g after split => ?_⟩
  · by_contra changed
    have bound := (keeps Unit).bound struck (true, 2, ⟨.function 2, .none, .press⟩)
    exact (bound.buffer changed).2.1 ⟨.cyclePanel, .inl rfl⟩
  -- The keyboard is at the tokens before either of the two keys.
  · rcases before with _ | ⟨first, _ | ⟨second, rest⟩⟩
    · decide
    · cases split
      decide
    · simp at split

end AnalysisDesk.Desk
