import AnalysisDesk.Proofs.Desk.Traffic
import AnalysisDesk.Proofs.Editor.Viewport

/-! # The surface of a desk at work
Whatever comes to a desk, all it can do to the surface is what can be done to a surface by itself: an
edit, another text, a copy, the passing of time, or a window to be shown in. So what holds of a
surface after any calls holds of the surface of every desk that is reached. -/

namespace AnalysisDesk.Desk.Traffic

open AnalysisDesk.Editor (Clipboard Surface)

variable {σ : Type} {answers : Answering σ} {t t' : Traffic σ}

/-- One surface is another, or the other after a call. -/
def Touched (s s' : Surface) : Prop := s' = s ∨ ∃ c, s' = s.call c

/-- A submission leaves the surface alone. -/
theorem surface_submit (t : Traffic σ) (starts : Bool) :
    (t.submit starts).desk.surface = t.desk.surface := by
  unfold submit
  split
  · rfl
  · cases starts with
    | true => rfl
    | false => rfl

/-- A copy is a call of the surface. -/
theorem surface_copy (t : Traffic σ) (now : Nat) :
    (t.copy now).desk.surface = t.desk.surface.call (.copy t.clipboard now) := by
  cases taken : t.desk.surface.copy t.clipboard now with
  | ok copied => simp only [copy, Surface.call, taken, note]
  | error fault => simp only [copy, Surface.call, taken, note]

theorem touched_perform (t : Traffic σ) (starts : Bool) (now : Nat) (command : Command) :
    Touched t.desk.surface (t.perform starts now command).desk.surface := by
  cases command with
  | quit => exact .inl rfl
  | submit => exact .inl (surface_submit _ starts)
  | copy => exact .inr ⟨_, surface_copy (t.note [.performed now .copy]) now⟩
  | cyclePanel => exact .inl rfl
  | edit e => exact .inr ⟨.edit e, rfl⟩
  | scroll move =>
    -- The keyboard may be at the source, and then there is nothing to move over.
    have same : (t.desk.scroll move).surface = t.desk.surface := by
      unfold State.scroll
      split <;> rfl
    exact .inl same

theorem touched_press (t : Traffic σ) (starts : Bool) (now : Nat) (key : Key) :
    Touched t.desk.surface (t.press starts now key).desk.surface := by
  unfold press
  split
  · exact .inl rfl
  · exact touched_perform t starts now _

/-- **A step** leaves the surface alone or is a call of it. -/
theorem Step.touched (step : Step answers t t') : Touched t.desk.surface t'.desk.surface := by
  cases step with
  | input _ starts input =>
    cases input with
    | key now key => exact touched_press _ starts now key
    | command now command => exact touched_perform _ starts now command
    | setText text => exact .inr ⟨.setText text, rfl⟩
    | tick now => exact .inr ⟨.tick now, rfl⟩
    | display outcome => exact .inl (State.surface_display _ outcome)
    | draw width height => exact .inr ⟨.shownIn _, rfl⟩
    | shownIn height => exact .inr ⟨.shownIn height, rfl⟩
    | clipboard fault => exact .inl rfl
  | drainOne _ first | waitOne _ _ first => exact .inl (State.surface_receive _ _)
  | answer | arrive | drain | wait | drained | answered | timeUp => exact .inl rfl

/-- **The surface of a desk at work** is that of its first source after some calls. -/
theorem Run.exists_after {source : List Char} {imageUrl : Option String} {clipboard : Clipboard}
    {service : σ} (run : Run answers (opening source imageUrl clipboard service) t) :
    ∃ calls, t.desk.surface = Surface.after source calls := by
  induction run with
  | refl => exact ⟨[], rfl⟩
  | tail _ step ih =>
    obtain ⟨calls, after⟩ := ih
    rcases step.touched with same | ⟨c, called⟩
    · exact ⟨calls, same.trans after⟩
    · refine ⟨calls ++ [c], ?_⟩
      rw [called, after, Surface.after, Surface.after, List.foldl_append, List.foldl_cons,
        List.foldl_nil]

/-- **The buffer of a desk at work** is well formed. -/
theorem Run.wellFormed {source : List Char} {imageUrl : Option String} {clipboard : Clipboard}
    {service : σ} (run : Run answers (opening source imageUrl clipboard service) t) :
    t.desk.surface.buffer.WellFormed := by
  obtain ⟨calls, after⟩ := run.exists_after
  rw [after]
  exact Surface.wellFormed_after source calls

end AnalysisDesk.Desk.Traffic
