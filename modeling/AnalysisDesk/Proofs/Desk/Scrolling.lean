import AnalysisDesk.Proofs.Desk.Keyboard
import AnalysisDesk.Proofs.Screen.Views

/-! # Scrolling
A viewer is in range if its first line shown is one of its lines, or line zero while it has none.
Showing a value begins at line zero and a move stops at either end, so whatever is called on a
viewer it stays in range, and moves in a row add up as far as the ends allow. The desk does nothing
else to its two viewers: each of them is, in every desk that is reached, a viewer after some such
calls. -/

namespace AnalysisDesk.Desk

open AnalysisDesk.Editor (Clipboard)
open AnalysisDesk.Json (Value)
open AnalysisDesk.Screen (Side)
open AnalysisDesk.Service (Analysis Outcome)

namespace Viewer

/-! ## Moves in a row -/

/-- **How moves add up** over the lines of one text. Amounts are any numbers; for machine words of
64 bits the laws are those of amounts whose sums fit: `v.scroll + a + b < 2 ^ 64` for two moves, and
`v.scroll + lines < 2 ^ 64` for one. -/
structure AddsUp (v : Viewer) : Prop where
  /-- Two moves down are one by the sum. -/
  down_down : ∀ a b, (v.move (.down a)).move (.down b) = v.move (.down (a + b))
  /-- Two moves up are one by the sum. -/
  up_up : ∀ a b, (v.move (.up a)).move (.up b) = v.move (.up (a + b))
  /-- A move up makes good at least as long a move down. -/
  down_up_le : ∀ a b, a ≤ b → ((v.move (.down a)).move (.up b)).scroll ≤ v.scroll
  /-- A move down by all lines, or by more, is a move to the end. -/
  down_of_le : ∀ lines, v.lineCount ≤ lines → v.move (.down lines) = v.move .bottom

/-- Moves add up over any text and from any line. -/
theorem addsUp (v : Viewer) : v.AddsUp := by
  have last : v.lastLine = v.lineCount - 1 := rfl
  refine ⟨fun a b => ?_, fun a b => ?_, fun a b le => ?_, fun lines le => ?_⟩
  · -- What the first move lost at the end of the text, the second one loses as well.
    have stop : min (min (v.scroll + a) v.lastLine + b) v.lastLine =
        min (v.scroll + (a + b)) v.lastLine := by omega
    exact congrArg (fun scroll => { v with scroll }) stop
  · exact congrArg (fun scroll => { v with scroll }) (Nat.sub_sub v.scroll a b)
  · have back : min (v.scroll + a) v.lastLine - b ≤ v.scroll := by omega
    exact back
  · have stop : min (v.scroll + lines) v.lastLine = v.lastLine := by omega
    exact congrArg (fun scroll => { v with scroll }) stop

/-! ## The range -/

/-- **A viewer in range.** -/
structure InRange (v : Viewer) : Prop where
  /-- The first line shown is not behind the last line. -/
  scroll_le : v.scroll ≤ v.lineCount - 1
  /-- Without a text it is line zero. -/
  scroll_of_nil : v.text = [] → v.scroll = 0
  /-- With a text it is one of the lines. -/
  scroll_lt : v.text ≠ [] → v.scroll < v.lineCount

/-- The number of the last line is all that matters. -/
theorem inRange_of_le {v : Viewer} (le : v.scroll ≤ v.lastLine) : v.InRange where
  scroll_le := le
  scroll_of_nil empty := by
    have none : v.lastLine = 0 := by
      rw [lastLine, lineCount, empty]
      rfl
    exact Nat.le_zero.mp (none ▸ le)
  scroll_lt filled := by
    have some_line : 0 < v.lineCount := List.length_pos_iff.mpr (Text.displayedLines_ne_nil filled)
    have last : v.lastLine = v.lineCount - 1 := rfl
    omega

/-- What can be called on a viewer. -/
inductive Call
  /-- Show a value. -/
  | present (value : Value)
  /-- Move over the lines. -/
  | move (m : Scroll)

/-- A viewer after a call. -/
def call (v : Viewer) : Call → Viewer
  | .present value => v.present value
  | .move m => v.move m

/-- A new viewer after calls, one after another. -/
def after (title : String) (calls : List Call) : Viewer := calls.foldl call (.titled title)

/-- **No call leaves the range.** -/
theorem InRange.call {v : Viewer} (h : v.InRange) (c : Call) : (v.call c).InRange := by
  refine inRange_of_le ?_
  cases c with
  | present value => exact Nat.zero_le _
  | move m =>
    change (v.move m).scroll ≤ (v.move m).lastLine
    rw [lastLine_move]
    cases m with
    | up lines => exact (Nat.sub_le v.scroll lines).trans h.scroll_le
    | down lines => exact Nat.min_le_right _ _
    | top => exact Nat.zero_le _
    | bottom => exact Nat.le_refl _

/-- Calls in a row do not leave the range either. -/
theorem InRange.foldl_call {v : Viewer} (h : v.InRange) (calls : List Call) :
    (calls.foldl Viewer.call v).InRange := by
  induction calls generalizing v with
  | nil => exact h
  | cons c rest ih => exact ih (h.call c)

/-- A new viewer is in range after any calls. -/
theorem inRange_after (title : String) (calls : List Call) : (after title calls).InRange :=
  (inRange_of_le (v := .titled title) (Nat.zero_le _)).foldl_call calls

/-- One viewer is another after some calls. -/
def Leads (v v' : Viewer) : Prop := ∃ calls : List Call, v' = calls.foldl call v

theorem Leads.refl (v : Viewer) : v.Leads v := ⟨[], rfl⟩

theorem Leads.single (v : Viewer) (c : Call) : v.Leads (v.call c) := ⟨[c], rfl⟩

theorem Leads.trans {v v' v'' : Viewer} (first : v.Leads v') (second : v'.Leads v'') :
    v.Leads v'' := by
  obtain ⟨calls, rfl⟩ := first
  obtain ⟨more, rfl⟩ := second
  exact ⟨calls ++ more, List.foldl_append.symm⟩

end Viewer

/-! ## The viewers of a desk -/

/-- An outcome is a call on each viewer, or none at all. -/
theorem State.leads_display (s : State) (outcome : Outcome) (side : Side) :
    (side.viewer s).Leads (side.viewer (s.display outcome)) := by
  cases outcome with
  | success analysis =>
    cases side with
    | tokens => exact .single s.tokens (.present (.array (analysis.tokens.map .text)))
    | tree => exact .single s.tree (.present analysis.tree)
  | failure detail => cases side <;> exact .refl _

theorem State.leads_receive (s : State) (arrival : Arrival) (side : Side) :
    (side.viewer s).Leads (side.viewer (s.receive arrival)) := by
  obtain ⟨id, result⟩ := arrival
  cases result with
  | ok outcome =>
    have led := leads_display { s with inFlight := s.inFlight - 1 } outcome side
    cases side <;> exact led
  | error fault => cases side <;> exact .refl _

variable {side : Side}

/-- A command is a call on a viewer only if it moves over the lines of that viewer. -/
theorem Front.Reacts.leads {f f' : Front} {command : Command} (reacts : f.Reacts command f') :
    (side.viewer f.desk).Leads (side.viewer f'.desk) := by
  cases reacts with
  | tokens m =>
    cases side with
    | tokens => exact .single f.desk.tokens (.move m)
    | tree => exact .refl f.desk.tree
  | tree m =>
    cases side with
    | tokens => exact .refl f.desk.tokens
    | tree => exact .single f.desk.tree (.move m)
  | quit | empty | submitted | copied | refused | cyclePanel | edit | still =>
    cases side <;> exact .refl _

namespace Traffic

variable {σ : Type} {answers : Answering σ} {t t' : Traffic σ}

theorem leads_press (t : Traffic σ) (starts : Bool) (now : Nat) (key : Key) :
    (side.viewer t.desk).Leads (side.viewer (t.press starts now key).desk) := by
  unfold press
  split
  · exact .refl _
  · exact (reacts_perform t starts now _).leads

/-- **A step** is some calls on each viewer. -/
theorem Step.leads (step : Step answers t t') :
    (side.viewer t.desk).Leads (side.viewer t'.desk) := by
  cases step with
  | input _ starts input =>
    cases input with
    | key now key => exact leads_press (t.note [.input (.key now key)]) starts now key
    | command now command =>
      exact (reacts_perform (t.note [.input (.command now command)]) starts now command).leads
    | display outcome => exact State.leads_display t.desk outcome _
    | setText | tick | draw | shownIn | clipboard => cases side <;> exact .refl _
  | drainOne _ first | waitOne _ _ first => exact State.leads_receive t.desk _ _
  | answer | arrive | drain | wait | drained | answered | timeUp => exact .refl _

/-- **A run** is some calls on each viewer. -/
theorem Run.leads (run : Run answers t t') : (side.viewer t.desk).Leads (side.viewer t'.desk) := by
  induction run with
  | refl => exact .refl _
  | tail _ step ih => exact ih.trans step.leads

/-- Both viewers of a desk that is reached are new ones after some calls. -/
theorem Run.exists_calls {source : List Char} {imageUrl : Option String} {clipboard : Clipboard}
    {service : σ} (run : Run answers (opening source imageUrl clipboard service) t) (side : Side) :
    ∃ title calls, side.viewer t.desk = Viewer.after title calls := by
  obtain ⟨calls, led⟩ : (side.viewer _).Leads (side.viewer t.desk) := run.leads
  cases side with
  | tokens => exact ⟨"Tokens", calls, led⟩
  | tree => exact ⟨"AST", calls, led⟩

end Traffic

/-- **The viewers of a desk in range**, now and after the next answer. -/
structure ViewersInRange (s : State) : Prop where
  /-- Both viewers are in range. -/
  inRange : ∀ side : Side, (side.viewer s).InRange
  /-- An analysis that goes on display is shown from its first line in both. -/
  display : ∀ (analysis : Analysis) (side : Side),
    (side.viewer (s.display (.success analysis))).scroll = 0
  /-- So is one that a worker brings. -/
  receive : ∀ (id : Nat) (analysis : Analysis) (side : Side),
    (side.viewer (s.receive ⟨id, .ok (.success analysis)⟩)).scroll = 0

theorem Traffic.Run.viewersInRange {σ : Type} {answers : Answering σ} {source : List Char}
    {imageUrl : Option String} {clipboard : Clipboard} {service : σ} {t : Traffic σ}
    (run : Run answers (opening source imageUrl clipboard service) t) : ViewersInRange t.desk := by
  refine ⟨fun side => ?_, fun _ side => ?_, fun _ _ side => ?_⟩
  · obtain ⟨title, calls, after⟩ := run.exists_calls side
    rw [after]
    exact Viewer.inRange_after title calls
  · cases side <;> rfl
  · cases side <;> rfl

/-- **Viewers stay in range and moves add up.** A viewer is in range after any calls, and back at
its first line whenever a value has just been shown; the moves between two values add up. The
viewers of a desk at work stay in range, whatever keys it takes and whatever outcomes are put on
display among them, and so do those of a session. -/
theorem viewers_stay_in_range :
    (∀ (title : String) (calls : List Viewer.Call), (Viewer.after title calls).InRange ∧
      ∀ value, (Viewer.after title (calls ++ [.present value])).scroll = 0) ∧
    (∀ v : Viewer, v.AddsUp) ∧
    (∀ {σ : Type} (answers : Answering σ) (source : List Char) (imageUrl : Option String)
      (clipboard : Clipboard) (service : σ) (t : Traffic σ),
      Traffic.Run answers (.opening source imageUrl clipboard service) t → ViewersInRange t.desk) ∧
    ∀ s : Session, s.Begins → ∀ calls, ViewersInRange (s.calls calls).desk := by
  refine ⟨fun title calls => ⟨Viewer.inRange_after title calls, fun value => ?_⟩, Viewer.addsUp,
    fun _ _ _ _ _ _ run => run.viewersInRange, fun s begins calls => ?_⟩
  · rw [Viewer.after, List.foldl_append]
    rfl
  · obtain ⟨source, imageUrl, notes, run⟩ := begins.exists_run calls
    exact run.viewersInRange

/-- An analysis that goes on display. -/
def analysed (tokens : List String) : Input := .display (.success ⟨tokens, .null⟩)

/-- A key with nothing held. -/
def stroke (code : KeyCode) : Key := ⟨code, .none, .press⟩

/-- A desk with an answer whose tokens are scrolled to their end before a shorter one comes. -/
def shortened : Traffic Unit :=
  let t := (Traffic.opening [] none .empty ()).take true (analysed ["a", "b", "c"])
  let t := (t.take true (.key 0 (stroke (.function 2)))).take true (.key 1 (stroke .lineEnd))
  (t.take true (analysed ["d"])).take true (.key 2 (stroke .pageDown))

/-- A session whose source no service analyses. -/
def unanswered : Session :=
  ⟨.opening ['x'] none, .empty, "http://host", .failing "down", 0, false, 0, [], [], []⟩

theorem shortened_in_range :
    ViewersInRange shortened.desk ∧ shortened.desk.tokens.scroll = 2 ∧
      shortened.desk.tokens.lineCount = 3 ∧
      ViewersInRange (unanswered.calls [.perform 0 .submit, .process, .perform 1 .cyclePanel,
        .press 2 (stroke .lineEnd)]).desk := by
  have run : Traffic.Run (fun _ _ _ _ => True) (.opening [] none .empty ()) shortened :=
    .tail (.tail (.tail (.tail (.tail .refl (.input rfl true (analysed ["a", "b", "c"])))
      (.input rfl true (.key 0 (stroke (.function 2)))))
      (.input rfl true (.key 1 (stroke .lineEnd)))) (.input rfl true (analysed ["d"])))
      (.input rfl true (.key 2 (stroke .pageDown)))
  have tokens : shortened.desk.tokens =
      ⟨"Tokens", (Value.array [.text "d"]).indented 0, 2⟩ := by decide +kernel
  obtain ⟨-, -, running, session⟩ := viewers_stay_in_range
  refine ⟨running _ [] none .empty () shortened run, ?_, ?_, ?_⟩
  · rw [tokens]
  · rw [tokens]
    decide
  · exact session unanswered ⟨⟨['x'], none, rfl⟩, rfl, rfl⟩ _

end AnalysisDesk.Desk
