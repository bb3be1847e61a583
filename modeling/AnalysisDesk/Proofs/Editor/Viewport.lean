import AnalysisDesk.Editor.Surface
import AnalysisDesk.Proofs.Editor.WellFormed
import Mathlib.Data.Nat.Dist

/-! # The window over the source
A surface is shown in windows of changing heights while its source is edited. The first row shown is
carried from one window to the next, and by then the cursor may have gone anywhere, lines may have
gone, and the height may be another one, or none at all. Whatever row the last window began at, the
next one begins as near to it as the cursor allows. -/

namespace AnalysisDesk.Editor.Surface

/-- A window of a height that begins at a row **reveals** the cursor: it begins at a line, and the
cursor is in it. A window without height need only begin no later than the cursor. -/
structure Reveals (s : Surface) (height first : Nat) : Prop where
  /-- The cursor is not above the window. -/
  le_row : first ≤ s.buffer.row
  /-- The window begins at a line. -/
  lt_length : first < s.buffer.lines.length
  /-- The cursor is not below the window. -/
  row_lt : 0 < height → s.buffer.row < first + height

/-- **The window follows the cursor**, and moves no further than it must. Rows and heights are any
numbers; for machine words of 64 bits the laws are those of heights with
`s.scroll + height < 2 ^ 64`. -/
structure Follows (s : Surface) (height : Nat) : Prop where
  /-- The cursor is in the window. -/
  reveals : s.Reveals height (s.scrollFor height)
  /-- A window that the cursor is in already stays where it is. -/
  stays : s.scroll ≤ s.buffer.row → (0 < height → s.buffer.row < s.scroll + height) →
    s.scrollFor height = s.scroll
  /-- No other window with the cursor in it is nearer to the last one. -/
  nearest : ∀ first, s.Reveals height first →
    Nat.dist (s.scrollFor height) s.scroll ≤ Nat.dist first s.scroll
  /-- A second look at the same height finds the same window. -/
  again : (s.shownIn height).scrollFor height = s.scrollFor height

variable (s : Surface) (height : Nat)

/-- Above the window, the cursor's row becomes the first one. -/
theorem scrollFor_of_lt (above : s.buffer.row < s.scroll) : s.scrollFor height = s.buffer.row :=
  if_pos above

/-- Below the window, the cursor's row becomes the last one. -/
theorem scrollFor_of_le (tall : 0 < height) (below : s.scroll + height ≤ s.buffer.row) :
    s.scrollFor height = s.buffer.row + 1 - height := by
  have notAbove : ¬s.buffer.row < s.scroll := by omega
  rw [scrollFor, if_neg notAbove, if_pos]
  exact Bool.and_eq_true_iff.mpr ⟨decide_eq_true tall, decide_eq_true below⟩

/-- In the window, the cursor moves nothing. -/
theorem scrollFor_of_within (notAbove : s.scroll ≤ s.buffer.row)
    (notBelow : 0 < height → s.buffer.row < s.scroll + height) :
    s.scrollFor height = s.scroll := by
  rw [scrollFor, if_neg (Nat.not_lt.mpr notAbove), if_neg]
  intro below
  obtain ⟨tall, below⟩ := Bool.and_eq_true_iff.mp below
  exact absurd (notBelow (of_decide_eq_true tall)) (Nat.not_lt.mpr (of_decide_eq_true below))

/-- The three places the cursor can be in: above the window, below it, or in it. -/
theorem scrollFor_cases :
    (s.buffer.row < s.scroll ∧ s.scrollFor height = s.buffer.row) ∨
      (0 < height ∧ s.scroll + height ≤ s.buffer.row ∧
        s.scrollFor height = s.buffer.row + 1 - height) ∨
      (s.scroll ≤ s.buffer.row ∧ (0 < height → s.buffer.row < s.scroll + height) ∧
        s.scrollFor height = s.scroll) := by
  by_cases above : s.buffer.row < s.scroll
  · exact .inl ⟨above, s.scrollFor_of_lt height above⟩
  · have notAbove := Nat.le_of_not_lt above
    by_cases below : 0 < height ∧ s.scroll + height ≤ s.buffer.row
    · exact .inr (.inl ⟨below.1, below.2, s.scrollFor_of_le height below.1 below.2⟩)
    · have notBelow : 0 < height → s.buffer.row < s.scroll + height := by omega
      exact .inr (.inr ⟨notAbove, notBelow, s.scrollFor_of_within height notAbove notBelow⟩)

/-- The row of the cursor is in the window, whether or not it is a line. -/
theorem scrollFor_le_row : s.scrollFor height ≤ s.buffer.row := by
  rcases s.scrollFor_cases height with ⟨-, eq⟩ | ⟨tall, -, eq⟩ | ⟨notAbove, -, eq⟩
  · exact Nat.le_of_eq eq
  · omega
  · rwa [eq]

theorem row_lt_scrollFor_add (tall : 0 < height) :
    s.buffer.row < s.scrollFor height + height := by
  rcases s.scrollFor_cases height with ⟨-, eq⟩ | ⟨-, -, eq⟩ | ⟨-, notBelow, eq⟩
  · omega
  · omega
  · rw [eq]
    exact notBelow tall

/-- Every window reveals the cursor if the cursor stands in a line. -/
theorem reveals_scrollFor (row_lt : s.buffer.row < s.buffer.lines.length) :
    s.Reveals height (s.scrollFor height) where
  le_row := s.scrollFor_le_row height
  lt_length := Nat.lt_of_le_of_lt (s.scrollFor_le_row height) row_lt
  row_lt := s.row_lt_scrollFor_add height

/-- **The nearest window**: one that reveals the cursor is at least as far from the last one. -/
theorem dist_scrollFor_le {first : Nat} (reveals : s.Reveals height first) :
    Nat.dist (s.scrollFor height) s.scroll ≤ Nat.dist first s.scroll := by
  obtain ⟨le_row, -, row_lt⟩ := reveals
  unfold Nat.dist
  rcases s.scrollFor_cases height with ⟨above, eq⟩ | ⟨tall, below, eq⟩ | ⟨-, -, eq⟩
  · -- The window goes up, and the cursor's row is the lowest it can begin at.
    omega
  · -- The window goes down, and must end no earlier than at the cursor's row.
    have := row_lt tall
    omega
  · omega

/-- The window stays where it is once the surface was shown in it. -/
theorem scrollFor_shownIn : (s.shownIn height).scrollFor height = s.scrollFor height :=
  (s.shownIn height).scrollFor_of_within height (s.scrollFor_le_row height)
    (s.row_lt_scrollFor_add height)

/-- **Windows follow the cursor** of any surface whose cursor stands in a line, wherever the last
window was. -/
theorem follows (row_lt : s.buffer.row < s.buffer.lines.length) : s.Follows height where
  reveals := s.reveals_scrollFor height row_lt
  stays := s.scrollFor_of_within height
  nearest _ := s.dist_scrollFor_le height
  again := s.scrollFor_shownIn height

/-! ## Histories -/

/-- What can be done to a surface. -/
inductive Call
  | edit (e : Edit)
  | setText (text : List Char)
  | copy (clipboard : Clipboard) (now : Nat)
  | tick (now : Nat)
  /-- The surface is shown in a window of a height. -/
  | shownIn (height : Nat)

/-- A surface after a call. A copy that the clipboard refuses changes nothing. -/
def call (s : Surface) : Call → Surface
  | .edit e => s.edit e
  | .setText text => s.setText text
  | .copy clipboard now =>
    match s.copy clipboard now with
    | .ok (copied, _) => copied
    | .error _ => s
  | .tick now => s.tick now
  | .shownIn height => s.shownIn height

/-- The surface of a text after calls, one after another. -/
def after (text : List Char) (calls : List Call) : Surface := calls.foldl call (.ofText text)

/-- A copy keeps the buffer. -/
theorem buffer_call_copy (clipboard : Clipboard) (now : Nat) :
    (s.call (.copy clipboard now)).buffer = s.buffer := by
  cases taken : clipboard.write s.snapshot with
  | ok => simp only [call, copy, taken, Except.map]
  | error => simp only [call, copy, taken, Except.map]

theorem buffer_tick (now : Nat) : (s.tick now).buffer = s.buffer := by
  rw [tick_eq]

/-- A call keeps the buffer well formed. -/
theorem wellFormed_call {s : Surface} (well : s.buffer.WellFormed) (c : Call) :
    (s.call c).buffer.WellFormed := by
  cases c with
  | edit e =>
    obtain ⟨next, found, hwell⟩ := well.edit? e
    have same : (s.call (.edit e)).buffer = next := by
      change s.buffer.edit e = next
      rw [Buffer.edit, found, Option.getD_some]
    rwa [same]
  | setText text => exact Buffer.wellFormed_ofText text
  | copy clipboard now => rwa [buffer_call_copy]
  | tick now =>
    change (s.tick now).buffer.WellFormed
    rwa [buffer_tick]
  | shownIn height => exact well

/-- The buffer of a surface is well formed after any calls. -/
theorem wellFormed_after (text : List Char) (calls : List Call) :
    (after text calls).buffer.WellFormed := by
  -- What the calls keep is kept from any well-formed surface on, not only from that of a text.
  suffices h : ∀ s : Surface, s.buffer.WellFormed → (calls.foldl call s).buffer.WellFormed from
    h (.ofText text) (Buffer.wellFormed_ofText text)
  induction calls with
  | nil => exact fun s well => well
  | cons c rest ih => exact fun s well => ih (s.call c) (wellFormed_call well c)

end AnalysisDesk.Editor.Surface
