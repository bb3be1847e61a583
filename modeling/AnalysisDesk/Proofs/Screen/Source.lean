import AnalysisDesk.Proofs.Desk.Surfaces
import AnalysisDesk.Proofs.Screen.Reach

/-! # Drawing the source
The editor's panel shows the lines of the source from the row on that the surface was scrolled to
for the height of the panel. So what is drawn follows the cursor just as the window over the source
does, and a drawing leaves nothing behind but the row that it began at. Whether there is a drawing
is for the viewers to say, now and when the desk is drawn again. -/

namespace AnalysisDesk.Screen

open AnalysisDesk.Desk (State Traffic Answering)
open AnalysisDesk.Editor (Clipboard Surface)

variable (s : State) (width height : Nat)

/-- **A drawing and the desk it leaves.** -/
structure Redrawn : Prop where
  /-- A drawing changes no more than the first row shown. -/
  only_scroll : drawn s width height =
    { s with surface := { s.surface with scroll := firstRow s width height } }
  /-- The first row is carried from one drawing to the next. -/
  still : drawn (drawn s width height) width height = drawn s width height
  /-- Drawn again at the same size, the desk looks the same, or cannot be drawn either. -/
  same : draw? (drawn s width height) width height = draw? s width height
  /-- There is a drawing just if both viewers can be drawn. -/
  drawable : (draw? s width height).isSome = true ↔
    ∀ side : Side, Drawable (side.viewer s) (side.area s width height).inner
  /-- The line of the cursor is among those drawn in the editor's panel, if it has any height. -/
  cursor_shown : 0 < (editorArea s width height).inner.height →
    ∃ i < (editorArea s width height).inner.height,
      firstRow s width height + i = s.surface.buffer.row ∧
      ∃ line, s.surface.buffer.lines[s.surface.buffer.row]? = some line ∧
        ∀ p, draw? s width height = some p → p.rowIn (editorArea s width height).inner i =
          lineRow (editorArea s width height).inner.width line

/-- A second drawing at the same size begins at the same row. -/
theorem firstRow_drawn : firstRow (drawn s width height) width height = firstRow s width height :=
  s.surface.scrollFor_shownIn (editorArea s width height).inner.height

/-- **Drawings of a desk** whose cursor stands in a line. -/
theorem redrawn (row_lt : s.surface.buffer.row < s.surface.buffer.lines.length) :
    Redrawn s width height where
  only_scroll := rfl
  still := by
    change { s with surface := { s.surface with
      scroll := firstRow (drawn s width height) width height } } = _
    rw [firstRow_drawn]
    rfl
  same := by
    -- A drawing looks at the scroll position of the desk only to find its first row.
    rw [draw?_eq, firstRow_drawn, draw?_eq]
    rfl
  drawable := isSome_draw?_iff s width height
  cursor_shown := by
    intro tall
    have le_row := s.surface.scrollFor_le_row (editorArea s width height).inner.height
    have row_lt_add := s.surface.row_lt_scrollFor_add _ tall
    have first : firstRow s width height =
      s.surface.scrollFor (editorArea s width height).inner.height := rfl
    have inPanel : s.surface.buffer.row - firstRow s width height <
        (editorArea s width height).inner.height := by omega
    have atRow : firstRow s width height + (s.surface.buffer.row - firstRow s width height) =
        s.surface.buffer.row := by omega
    have line := List.getElem?_eq_getElem row_lt
    refine ⟨_, inPanel, atRow, _, line, fun p drawing => ?_⟩
    rw [(rowIn_draw? drawing).1 _ inPanel, atRow, line, Option.getD_some]

/-- A desk that was drawn low with its cursor at the fourth line, which then went up a line. -/
def wandered : Traffic Unit :=
  let t : Traffic Unit := .opening ['a', '\n', 'b', '\n', 'c', '\n', 'd'] none .empty ()
  let t := (t.take true (.command 0 (.edit .down))).take true (.command 0 (.edit .down))
  let t := (t.take true (.command 0 (.edit .down))).take true (.draw 20 8)
  t.take true (.command 0 (.edit .up))

end AnalysisDesk.Screen
