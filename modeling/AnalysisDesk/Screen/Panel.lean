import AnalysisDesk.Screen.Wrap

/-! # Panels
A panel is a box with a title on its top edge and rows of text inside. In an area too small for a
box the edges that are drawn are those nearest to the top left corner. -/

namespace AnalysisDesk.Screen

/-- The look of a panel's frame. -/
structure Frame where
  /-- The title, in ASCII. -/
  title : List Char
  /-- The style of the edges and the title. -/
  style : Style
  deriving DecidableEq, Repr

/-- The frame of a panel that may have the keyboard. -/
def Frame.ofPanel (title : String) (focused : Bool) : Frame :=
  if focused then ⟨(" [" ++ title ++ "] ").toList, .colored .green⟩
  else ⟨(" " ++ title ++ " ").toList, .plain⟩

/-- A row between two ends; only the left end is drawn in a single column. -/
def between (width : Nat) (left right : Cell) (middle : Row) : Row :=
  match width with
  | 0 => []
  | 1 => [left]
  | width + 2 => left :: (middle.fit width ++ [right])

namespace Frame

/-- A cell of the frame. -/
def cell (frame : Frame) (c : Char) : Cell := ⟨[c], frame.style⟩

/-- The edge between two corners. -/
def edge (frame : Frame) (width : Nat) : Row := List.replicate width (frame.cell '─')

/-- The top row, with as much of the title as there is room for. -/
def top (frame : Frame) (width : Nat) : Row :=
  let title := (frame.title.take (width - 2)).map frame.cell
  between width (frame.cell '┌') (frame.cell '┐') (title ++ frame.edge (width - 2 - title.length))

/-- A row inside the frame. -/
def side (frame : Frame) (width : Nat) (content : Row) : Row :=
  between width (frame.cell '│') (frame.cell '│') content

/-- The bottom row. -/
def bottom (frame : Frame) (width : Nat) : Row :=
  between width (frame.cell '└') (frame.cell '┘') (frame.edge (width - 2))

/-- The rows of a framed area. -/
def around (frame : Frame) (width : Nat) (content : List Row) : Nat → List Row
  | 0 => []
  | 1 => [frame.top width]
  | height + 2 =>
    let inside := (content ++ List.replicate (height - content.length) []).take height
    frame.top width :: (inside.map (frame.side width) ++ [frame.bottom width])

end Frame

@[simp] theorem length_between (width : Nat) (left right : Cell) (middle : Row) :
    (between width left right middle).length = width := by
  unfold between
  split <;> simp

/-- A framed area has as many rows as it is high. -/
@[simp] theorem Frame.length_around (frame : Frame) (width : Nat) (content : List Row)
    (height : Nat) : (frame.around width content height).length = height := by
  unfold around
  split
  · rfl
  · rfl
  · simp [List.length_take]; omega

end AnalysisDesk.Screen
