import AnalysisDesk.Proofs.Desk.Effect

/-! # The answers on display
What is on display of the answers is told by the outcomes taken in so far, in the order they were
taken in: the viewers show the last analysis, both of them the same one, and a complaint is on display
if it is the last outcome of all. The numbers of the requests, and whatever else happened, have no
say. -/

namespace AnalysisDesk.Service

/-- The analysis of a success. -/
def Outcome.analysis? : Outcome → Option Analysis
  | .success analysis => some analysis
  | .failure _ => none

/-- The complaint of a failure. -/
def Outcome.detail? : Outcome → Option String
  | .success _ => none
  | .failure detail => some detail

end AnalysisDesk.Service

namespace AnalysisDesk.Desk

open AnalysisDesk.Editor (Clipboard)
open AnalysisDesk.Json (Value)
open AnalysisDesk.Service (Analysis Outcome Fault)

/-! ## What outcomes put on display -/

/-- The last analysis among outcomes. -/
def lastAnalysis? (outcomes : List Outcome) : Option Analysis :=
  (outcomes.filterMap Outcome.analysis?).getLast?

/-- The complaint of the last outcome, if that is one. -/
def lastDetail? (outcomes : List Outcome) : Option String := outcomes.getLast?.bind Outcome.detail?

/-- The text of the tokens of an analysis. -/
def tokensText (analysis : Analysis) : List Char :=
  (Value.array (analysis.tokens.map .text)).indented 0

/-- The text of the parse tree of an analysis. -/
def treeText (analysis : Analysis) : List Char := analysis.tree.indented 0

/-- **What is on display after outcomes**: the last analysis and the complaint of the last one. -/
def Shown.ofOutcomes (outcomes : List Outcome) : Shown where
  lastSuccess := lastAnalysis? outcomes
  tokens := ((lastAnalysis? outcomes).map tokensText).getD []
  tree := ((lastAnalysis? outcomes).map treeText).getD []
  complaint := lastDetail? outcomes

theorem lastAnalysis?_success (outcomes : List Outcome) (analysis : Analysis) :
    lastAnalysis? (outcomes ++ [.success analysis]) = some analysis := by
  unfold lastAnalysis?
  rw [List.filterMap_append]
  exact List.getLast?_concat

theorem lastAnalysis?_failure (outcomes : List Outcome) (detail : String) :
    lastAnalysis? (outcomes ++ [.failure detail]) = lastAnalysis? outcomes := by
  unfold lastAnalysis?
  rw [List.filterMap_append]
  exact congrArg List.getLast? (List.append_nil _)

theorem lastDetail?_concat (outcomes : List Outcome) (outcome : Outcome) :
    lastDetail? (outcomes ++ [outcome]) = outcome.detail? := by
  unfold lastDetail?
  rw [List.getLast?_concat]
  rfl

/-- A complaint is the last outcome if and only if the last outcome is that complaint. -/
theorem lastDetail?_eq_some_iff (outcomes : List Outcome) (detail : String) :
    lastDetail? outcomes = some detail ↔ outcomes.getLast? = some (.failure detail) := by
  unfold lastDetail?
  cases outcomes.getLast? with
  | none => simp
  | some outcome => cases outcome <;> simp [Outcome.detail?]

/-- **One more outcome** on display. -/
theorem State.shown_display {s : State} {outcomes : List Outcome}
    (h : s.shown = .ofOutcomes outcomes) (outcome : Outcome) :
    (s.display outcome).shown = .ofOutcomes (outcomes ++ [outcome]) := by
  cases outcome with
  | success analysis =>
    simp only [Shown.ofOutcomes, lastAnalysis?_success, lastDetail?_concat]
    rfl
  | failure detail =>
    -- The last analysis is still the same one, and with it both texts.
    simp only [Shown.ofOutcomes, lastAnalysis?_failure, lastDetail?_concat]
    unfold State.shown Shown.ofOutcomes at h
    injection h with hlast htokens htree
    unfold State.shown State.display
    simp only [hlast, htokens, htree]
    rfl

/-- The second of two equal outcomes in a row changes nothing. -/
theorem State.display_display (s : State) (outcome : Outcome) :
    (s.display outcome).display outcome = s.display outcome := by
  cases outcome <;> rfl

/-- An arrival without an outcome leaves everything on display as it is. -/
theorem State.receive_error (s : State) (id : Nat) (fault : Fault) :
    s.receive ⟨id, .error fault⟩ = { s with inFlight := s.inFlight - 1 } := rfl

theorem State.shown_receive_ok (s : State) (id : Nat) (outcome : Outcome) :
    (s.receive ⟨id, .ok outcome⟩).shown = (s.display outcome).shown := by
  cases outcome <;> rfl

/-! ## The outcomes of a run -/

/-- The outcomes that were put on display, in order. An arrival without one counts for nothing. -/
def outcomesOf (history : List Note) : List Outcome :=
  history.filterMap fun
    | .received ⟨_, .ok outcome⟩ => some outcome
    | .input (.display outcome) => some outcome
    | _ => none

theorem outcomesOf_append (history notes : List Note) :
    outcomesOf (history ++ notes) = outcomesOf history ++ outcomesOf notes :=
  List.filterMap_append

theorem Silent.outcomesOf_eq {notes : List Note} (h : Silent notes) : outcomesOf notes = [] := by
  refine List.filterMap_eq_nil_iff.mpr fun n hn => ?_
  have silent := h n hn
  cases n with
  | received => cases silent
  | input input =>
    cases input with
    | display => cases silent
    | _ => rfl
  | _ => rfl

namespace Traffic

variable {σ : Type} {answers : Answering σ} {t t' : Traffic σ}

/-- The display is told by the outcomes so far. -/
def DisplaysOutcomes (t : Traffic σ) : Prop := t.desk.shown = .ofOutcomes (outcomesOf t.history)

/-- Notes without outcomes, with a change that shows nothing new, keep what the display is told
by. -/
theorem displaysOutcomes_note {change : State → State} (shown : ∀ s, (change s).shown = s.shown)
    (h : t.DisplaysOutcomes) {notes : List Note} (none : outcomesOf notes = []) :
    ((t.onDesk change).note notes).DisplaysOutcomes := by
  change (change t.desk).shown = .ofOutcomes (outcomesOf (t.history ++ notes))
  rw [shown, outcomesOf_append, none, List.append_nil]
  exact h

/-- **Each effect keeps the display true** to the outcomes. -/
theorem Effect.displaysOutcomes (effect : Effect t t') (h : t.DisplaysOutcomes) :
    t'.DisplaysOutcomes := by
  have silently {notes : List Note} (silent : Silent notes) {n : Note}
      (none : outcomesOf [n] = []) :
      outcomesOf (notes ++ [n]) = [] := by
    rw [outcomesOf_append, silent.outcomesOf_eq, none, List.append_nil]
  cases effect with
  | quiet quiet clipboard stance silent =>
    exact displaysOutcomes_note quiet.shown h silent.outcomesOf_eq
  | quit silent now => exact displaysOutcomes_note State.shown_quit h (silently silent rfl)
  | started silent next =>
    exact displaysOutcomes_note (t := t) (State.shown_submitted · true) h (silently silent rfl)
  | unstarted silent next =>
    exact displaysOutcomes_note (State.shown_submitted · false) h (silently silent rfl)
  -- The two effects with an outcome; it is the last one afterwards.
  | displayed outcome =>
    change (t.desk.display outcome).shown = .ofOutcomes (outcomesOf (t.history ++ [_]))
    rw [outcomesOf_append]
    exact State.shown_display h outcome
  | answered => exact h
  | arrived => exact h
  | @received arrival rest first =>
    obtain ⟨id, result⟩ := arrival
    change (t.desk.receive ⟨id, result⟩).shown = .ofOutcomes (outcomesOf (t.history ++ [_]))
    rw [outcomesOf_append]
    cases result with
    | error fault =>
      rw [show outcomesOf [.received ⟨id, .error fault⟩] = [] from rfl, List.append_nil]
      exact h
    | ok outcome =>
      rw [State.shown_receive_ok]
      exact State.shown_display h outcome

/-- The display of a desk stays true to the outcomes. -/
theorem displaysOutcomes {source : List Char} {imageUrl : Option String} {clipboard : Clipboard}
    {service : σ} (run : Run answers (opening source imageUrl clipboard service) t) :
    t.DisplaysOutcomes := by
  induction run with
  | refl => rfl
  | tail _ step ih => exact step.effect.displaysOutcomes ih

/-- **What is on display**, in terms of the outcomes taken in so far. -/
structure Displayed (t : Traffic σ) : Prop where
  /-- The last success is the last analysis. -/
  lastSuccess_eq : t.desk.lastSuccess = lastAnalysis? (outcomesOf t.history)
  /-- The viewer of the tokens shows those of the last analysis, nothing before there is one. -/
  tokens_eq : t.desk.tokens.text = ((lastAnalysis? (outcomesOf t.history)).map tokensText).getD []
  /-- The viewer of the parse tree shows that of the same analysis. -/
  tree_eq : t.desk.tree.text = ((lastAnalysis? (outcomesOf t.history)).map treeText).getD []
  /-- A complaint is on display if and only if it is the last outcome of all. -/
  complaint_iff : ∀ detail, t.desk.complaint = some detail ↔
    (outcomesOf t.history).getLast? = some (.failure detail)
  /-- An arrival without an outcome changes nothing but the number of unanswered requests. -/
  receive_error : ∀ id fault,
    t.desk.receive ⟨id, .error fault⟩ = { t.desk with inFlight := t.desk.inFlight - 1 }
  /-- Of two answers the one taken in later is on display, whatever their numbers are. -/
  receive_receive : ∀ first second result analysis,
    ((t.desk.receive ⟨first, result⟩).receive ⟨second, .ok (.success analysis)⟩).shown =
      ⟨some analysis, tokensText analysis, treeText analysis, none⟩
  /-- The same outcome twice in a row is as good as once. -/
  display_display : ∀ outcome,
    (t.desk.display outcome).display outcome = t.desk.display outcome

/-- **The display is a function of the outcomes** in the order they were taken in. -/
theorem display_of_outcomes {source : List Char} {imageUrl : Option String} {clipboard : Clipboard}
    {service : σ} (run : Run answers (opening source imageUrl clipboard service) t) :
    t.Displayed := by
  have told := displaysOutcomes run
  unfold DisplaysOutcomes State.shown Shown.ofOutcomes at told
  injection told with hlast htokens htree hcomplaint
  refine ⟨hlast, htokens, htree, fun detail => ?_, State.receive_error t.desk, ?_,
    State.display_display t.desk⟩
  · rw [hcomplaint]
    exact lastDetail?_eq_some_iff _ detail
  · intro first second result analysis
    rw [State.shown_receive_ok]
    rfl

/-- A desk with two submissions of which the second is answered first. -/
def crossed : Traffic Unit :=
  let submission (id : Nat) : Submission := ⟨id, ['x']⟩
  let analysis (token : String) : Except Fault Outcome := .ok (.success ⟨[token], .null⟩)
  let t := (opening ['x'] none .empty ()).take true (.command 0 .submit)
  let t := t.take true (.command 1 .submit)
  let t := (t.answer [submission 1] [] (submission 2) (analysis "new") ()).arrive [] []
    ⟨2, analysis "new"⟩
  let t := (t.answer [] [] (submission 1) (analysis "old") ()).arrive [] [] ⟨1, analysis "old"⟩
  ((t.turn .draining).receive ⟨2, analysis "new"⟩ [⟨1, analysis "old"⟩]).receive
    ⟨1, analysis "old"⟩ []

theorem crossed_displayed :
    crossed.Displayed ∧ crossed.desk.lastSuccess.map Analysis.tokens = some ["old"] := by
  have run : Run (fun _ _ _ _ => True) (opening ['x'] none .empty ()) crossed := by
    refine .tail (.tail (.tail (.tail (.tail (.tail (.tail (.tail (.tail .refl
      (.input rfl true (.command 0 .submit))) (.input rfl true (.command 1 .submit)))
      (.answer rfl trivial)) (.arrive rfl)) (.answer rfl trivial)) (.arrive rfl)) (.drain rfl))
      (.drainOne rfl rfl)) (.drainOne rfl rfl)
  exact ⟨display_of_outcomes run, rfl⟩

end Traffic
end AnalysisDesk.Desk
