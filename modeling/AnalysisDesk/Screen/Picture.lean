import AnalysisDesk.Desk.State
import AnalysisDesk.Screen.Area
import AnalysisDesk.Screen.Panel

/-! # Drawing the desk
From top to bottom: a header, the editor, a banner with the service's complaint, the two viewers
side by side, and a status bar. Positions on the screen are numbers of sixteen bits, to which rows
and columns of a text are narrowed; a viewer that takes a greater number cannot be drawn, and then
nothing is. -/

namespace AnalysisDesk.Screen

open AnalysisDesk.Desk (State Viewer Panel)
open AnalysisDesk.Text (displayedLines)

/-- A drawn screen. -/
structure Picture where
  /-- The rows, as the terminal shows them. -/
  rows : List Row
  /-- The column and row of the terminal's cursor, if it is shown. -/
  cursor : Option (Nat × Nat)
  deriving Repr

/-- The number of positions that sixteen bits can name. -/
def positions : Nat := 65536

/-- The greatest position. -/
def lastPosition : Nat := positions - 1

/-! ## Bars -/

/-- The rows of a bar of spans. -/
def barRows (width : Nat) (spans : List Span) (height : Nat) : List Row :=
  (clippedRow width (glyphs spans) :: List.replicate (height - 1) (Row.blank width)).take height

/-- The header: the program's name and purpose, and the address of an image if there is one. -/
def headerSpans (s : State) : List Span :=
  [⟨" LexZig ".toList, ⟨some .black, some .yellow, true⟩⟩,
    .plain " lexical and syntax analysis for Zig".toList] ++
  match s.imageUrl with
  | none => []
  | some url => [.plain [' ', ' '], ⟨url.toList, .colored .darkGray⟩]

/-- The status bar: the keys, the number of unanswered requests, the confirmation of a copy, and
trouble with the clipboard. -/
def statusSpans (s : State) : List Span :=
  [⟨" ^R run  ^Y copy  F2 focus  ^Q quit ".toList, .colored .darkGray⟩] ++
  (if 0 < s.inFlight then
    [⟨(" Analysing... (" ++ toString s.inFlight ++ ") ").toList, .colored .yellow⟩] else []) ++
  (if s.surface.pending then [⟨" Copied! ".toList, ⟨some .green, none, true⟩⟩] else []) ++
  match s.status with
  | none => []
  | some text => [⟨(" " ++ text ++ " ").toList, .colored .red⟩]

/-! ## Panels -/

/-- Lines of plain text, cut at the width. -/
def lineRows (width : Nat) (lines : List (List Char)) : List Row :=
  lines.map fun line => clippedRow width (Span.plain line).glyphs

/-- The editor, in an area of a size, from a row of the source on. -/
def editorRows (s : State) (width height scroll : Nat) : List Row :=
  let lines := (s.surface.buffer.lines.drop scroll).take (height - 2)
  (Frame.ofPanel "Source" (s.panel = .editor)).around width (lineRows (width - 2) lines) height

/-- The cursor of the terminal: on the cursor of the source, if that lies inside the area. -/
def editorCursor (s : State) (inner : Area) (scroll : Nat) : Option (Nat × Nat) :=
  let x := min (inner.x + s.surface.buffer.column % positions) lastPosition
  let y := min (inner.y + (s.surface.buffer.row - scroll) % positions) lastPosition
  if s.panel = .editor && 0 < inner.height && x < inner.right && y < inner.bottom then some (x, y)
  else none

/-- The banner with a complaint. -/
def bannerRows (detail : String) (width height : Nat) : List Row :=
  let lines := wrap (width - 2) (Span.mk detail.toList (.colored .red)).glyphs
  let rows := lines.map fun line => (cells line).fit (width - 2)
  Frame.around ⟨" Error ".toList, .colored .red⟩ width rows height

/-! ## Viewers -/

/-- Whether anything of a line is drawn in a width. -/
def leavesMark (width : Nat) (line : List Char) : Bool :=
  !(cells (clip width (Span.plain line).glyphs)).isEmpty

/-- The lines of a text that an area shows, from one on that is narrowed to a position. The line
behind the area must have a position for its number as well, and so must each line that leaves a
mark if it is counted from the top of the screen; in an area without columns nothing is counted. -/
def window? (lines : List (List Char)) (first : Nat) (inner : Area) : Option (List (List Char)) :=
  let first := min first lastPosition
  let shown := (lines.drop first).take inner.height
  let marksInPlace := (shown.zipIdx (inner.y + first)).all fun (line, place) =>
    place ≤ lastPosition || !leavesMark inner.width line
  if inner.width = 0 || (first + inner.height ≤ lastPosition && marksInPlace) then some shown
  else none

/-- What an empty viewer shows. -/
def placeholder : Span := ⟨"(run an analysis to see results)".toList, .colored .darkGray⟩

/-- The rows inside a viewer, if it can be drawn. -/
def viewerLines? (v : Viewer) (inner : Area) : Option (List Row) :=
  if v.text.isEmpty then some [clippedRow inner.width placeholder.glyphs]
  else (window? (displayedLines v.text) v.scroll inner).map (lineRows inner.width)

/-- A viewer around the rows inside it. -/
def viewerRows (v : Viewer) (focused : Bool) (area : Area) (content : List Row) : List Row :=
  (Frame.ofPanel v.title focused).around area.width content area.height

/-! ## The whole screen -/

/-- The rows that each part of the screen gets for a desk. -/
def partsFor (s : State) (height : Nat) : Heights := Heights.of height s.complaint.isSome

/-- The area of the editor on a screen. -/
def editorArea (s : State) (width height : Nat) : Area :=
  let parts := partsFor s height
  ⟨0, parts.header, width, parts.editor⟩

/-- The area of the viewers: below the header, the editor and the banner, over the whole width. -/
def viewersArea (s : State) (width height : Nat) : Area :=
  let parts := partsFor s height
  ⟨0, parts.header + parts.editor + parts.banner, width, parts.results⟩

/-- The area of the tokens, on the left. -/
def tokensArea (s : State) (width height : Nat) : Area :=
  { viewersArea s width height with width := tokensWidth width }

/-- The area of the parse tree, on the right. -/
def treeArea (s : State) (width height : Nat) : Area :=
  { viewersArea s width height with x := tokensWidth width, width := width - tokensWidth width }

/-- The desk after it was drawn: the editor keeps the row it was shown from, which is settled before
the viewers are looked at. -/
def drawn (s : State) (width height : Nat) : State :=
  s.shownIn (editorArea s width height).inner.height

/-- The rows of the two viewers side by side, if both can be drawn. -/
def viewersRows? (s : State) (width height : Nat) : Option (List Row) := do
  let tokens ← viewerLines? s.tokens (tokensArea s width height).inner
  let tree ← viewerLines? s.tree (treeArea s width height).inner
  return List.zipWith (· ++ ·)
    (viewerRows s.tokens (s.panel = .tokens) (tokensArea s width height) tokens)
    (viewerRows s.tree (s.panel = .tree) (treeArea s width height) tree)

/-- The rows of the desk around those of the viewers, before wide clusters cover the cells behind
them. -/
def layers (s : State) (width height scroll : Nat) (viewers : List Row) : List Row :=
  let parts := partsFor s height
  barRows width (headerSpans s) parts.header ++
  editorRows s width parts.editor scroll ++
  (match s.complaint with
    | none => []
    | some detail => bannerRows detail width parts.banner) ++
  viewers ++
  barRows width (statusSpans s) parts.status

/-- The desk on a screen of a size, if both viewers can be drawn. -/
def draw? (s : State) (width height : Nat) : Option Picture :=
  let inner := (editorArea s width height).inner
  let scroll := s.surface.scrollFor inner.height
  (viewersRows? s width height).map fun viewers =>
    ⟨(layers s width height scroll viewers).map Row.settle, editorCursor s inner scroll⟩

end AnalysisDesk.Screen
