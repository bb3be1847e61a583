import AnalysisDesk.Editor.Buffer
import AnalysisDesk.Editor.Clipboard

/-! # Editing surface
The buffer as it is edited on screen: with the first row shown, and with the moment of the last
copy for as long as its confirmation is up. Moments are milliseconds on one clock. -/

namespace AnalysisDesk.Editor

/-- How long the confirmation of a copy stays up, in milliseconds. -/
def confirmationTime : Nat := 2000

/-- The program in a new editor. -/
def sampleProgram : String :=
  "const Circle = struct \x7b\n  x: i32, \n  y: i32,\n\n" ++
  "  pub fn new(x: i32, y: i32) Circle \x7b\n    return Circle\x7b\n" ++
  "      .x = x,\n      .y = y,\n    \x7d;\n  \x7d\n\x7d;\n"

/-- A buffer on screen. -/
structure Surface where
  /-- The source. -/
  buffer : Buffer
  /-- When the last copy was made, until its confirmation is dropped. -/
  copiedAt : Option Nat
  /-- The first row shown when the surface was last drawn. -/
  scroll : Nat
  deriving DecidableEq, Repr

namespace Surface

/-- A surface that holds a text. -/
def ofText (text : List Char) : Surface := ⟨.ofText text, none, 0⟩

/-- The surface of a new editor. -/
def sample : Surface := ofText sampleProgram.toList

/-- The source as one text. -/
def snapshot (s : Surface) : List Char := s.buffer.text

/-- Edit the buffer. -/
def edit (s : Surface) (e : Edit) : Surface := { s with buffer := s.buffer.edit e }

/-- Begin anew with another text, shown from its first row. -/
def setText (s : Surface) (text : List Char) : Surface :=
  { s with buffer := .ofText text, scroll := 0 }

/-- Copy the source; the confirmation goes up only if the clipboard takes it. -/
def copy (s : Surface) (clipboard : Clipboard) (now : Nat) :
    Except ClipboardFault (Surface × Clipboard) :=
  (clipboard.write s.snapshot).map fun clipboard => ({ s with copiedAt := some now }, clipboard)

/-- Whether the confirmation is up at a moment; a moment before the copy counts as the copy's. -/
def confirms (s : Surface) (now : Nat) : Bool :=
  match s.copiedAt with
  | some copied => now - copied < confirmationTime
  | none => false

/-- Drop the confirmation if it is no longer up. -/
def tick (s : Surface) (now : Nat) : Surface :=
  if s.confirms now then s else { s with copiedAt := none }

/-- Whether a confirmation is drawn: one went up and has not been dropped. -/
def pending (s : Surface) : Bool := s.copiedAt.isSome

/-- The first row to show in a window of a height, such that the cursor's row is in the window. The
sum of a row and a height is exact. Machine words of 64 bits hold it if `s.scroll + height < 2 ^ 64`;
the windows of a screen have heights below `2 ^ 16`. -/
def scrollFor (s : Surface) (height : Nat) : Nat :=
  if s.buffer.row < s.scroll then s.buffer.row
  else if 0 < height && s.scroll + height ≤ s.buffer.row then s.buffer.row + 1 - height
  else s.scroll

/-- The surface after it has been shown in a window of a height. -/
def shownIn (s : Surface) (height : Nat) : Surface := { s with scroll := s.scrollFor height }

@[simp] theorem snapshot_ofText (text : List Char) : (ofText text).snapshot = text :=
  Buffer.text_ofText text

@[simp] theorem snapshot_setText (s : Surface) (text : List Char) :
    (s.setText text).snapshot = text :=
  Buffer.text_ofText text

@[simp] theorem buffer_shownIn (s : Surface) (height : Nat) :
    (s.shownIn height).buffer = s.buffer := rfl

/-! ## The confirmation of a copy -/

theorem confirms_eq_true_iff (s : Surface) (now : Nat) : s.confirms now = true ↔
    ∃ copied, s.copiedAt = some copied ∧ now - copied < confirmationTime := by
  unfold confirms
  cases s.copiedAt with
  | none => simp
  | some copied => simp

/-- The passing of time keeps a confirmation that is still up, and drops any other. -/
theorem tick_eq (s : Surface) (now : Nat) : s.tick now =
    { s with copiedAt := s.copiedAt.filter fun copied => now - copied < confirmationTime } := by
  obtain ⟨buffer, copiedAt, scroll⟩ := s
  cases copiedAt with
  | none => rfl
  | some copied =>
    by_cases up : now - copied < confirmationTime
    · simp [tick, confirms, up, Option.filter_some]
    · simp [tick, confirms, up, Option.filter_some]

/-- **Forgetting is not seen**: no later look can tell whether time was looked at before. -/
theorem confirms_tick (s : Surface) {moment now : Nat} (later : moment ≤ now) :
    (s.tick moment).confirms now = s.confirms now := by
  refine Bool.eq_iff_iff.mpr ?_
  simp only [confirms_eq_true_iff, tick_eq, Option.filter_eq_some_iff, decide_eq_true_eq]
  constructor
  · rintro ⟨copied, ⟨kept, -⟩, up⟩
    exact ⟨copied, kept, up⟩
  · rintro ⟨copied, kept, up⟩
    -- What is up at the later moment was up at the earlier one.
    exact ⟨copied, ⟨kept, by omega⟩, up⟩

/-- Right after time was looked at, a confirmation is drawn if and only if it is up. -/
theorem pending_tick (s : Surface) (now : Nat) : (s.tick now).pending = s.confirms now := by
  unfold pending
  refine Bool.eq_iff_iff.mpr ?_
  rw [tick_eq, confirms_eq_true_iff, Option.isSome_iff_exists]
  simp only [Option.filter_eq_some_iff, decide_eq_true_eq]

end Surface
end AnalysisDesk.Editor
