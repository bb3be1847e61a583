import AnalysisDesk.Text.Width

/-! # Cells of a screen
A screen is made of rows of cells, and a cell holds one cluster in one style. A cluster of two cells
covers the cell behind it, whatever that cell holds. -/

namespace AnalysisDesk.Screen

open AnalysisDesk.Text (clusters clusterWidth)

/-- The colours in use. -/
inductive Color
  | black
  | yellow
  | green
  | red
  | darkGray
  deriving DecidableEq, Repr

/-- How a cell is drawn. -/
structure Style where
  /-- The colour of the symbol, none for the terminal's own. -/
  foreground : Option Color
  /-- The colour behind the symbol, none for the terminal's own. -/
  background : Option Color
  /-- Whether the symbol is bold. -/
  bold : Bool
  deriving DecidableEq, Repr

/-- The terminal's own style. -/
def Style.plain : Style := ⟨none, none, false⟩

/-- The style of a colour. -/
def Style.colored (color : Color) : Style := ⟨some color, none, false⟩

/-- One cell. -/
structure Cell where
  /-- The cluster it shows. -/
  symbol : List Char
  /-- How it is drawn. -/
  style : Style
  deriving DecidableEq, Repr

/-- A cell with nothing in it. -/
def Cell.blank : Cell := ⟨[' '], .plain⟩

/-- The number of cells that the symbol of a cell takes. -/
def Cell.width (cell : Cell) : Nat := clusterWidth cell.symbol

/-- A row of cells. -/
abbrev Row := List Cell

namespace Row

/-- A row with nothing in it. -/
def blank (width : Nat) : Row := List.replicate width .blank

/-- A row made exactly so wide: cut off, or filled up with blank cells. -/
def fit (width : Nat) (row : Row) : Row := (row ++ blank (width - row.length)).take width

/-- The row as a terminal shows it, where the first cell may be covered by the one before. -/
def settleFrom (covered : Bool) : Row → Row
  | [] => []
  | cell :: rest =>
    (if covered then .blank else cell) :: settleFrom (2 ≤ cell.width) rest

/-- The row as a terminal shows it: a cell behind one of two cells is blank. -/
def settle (row : Row) : Row := settleFrom false row

@[simp] theorem length_blank (width : Nat) : (blank width).length = width := by simp [blank]

@[simp] theorem length_fit (width : Nat) (row : Row) : (row.fit width).length = width := by
  simp [fit, List.length_take]; omega

@[simp] theorem length_settleFrom (covered : Bool) (row : Row) :
    (row.settleFrom covered).length = row.length := by
  induction row generalizing covered with
  | nil => rfl
  | cons cell rest ih => simp [settleFrom, ih]

@[simp] theorem length_settle (row : Row) : row.settle.length = row.length := by
  simp [settle]

end Row

/-- A text in one style. -/
structure Span where
  /-- The characters. -/
  text : List Char
  /-- How they are drawn. -/
  style : Style
  deriving DecidableEq, Repr

namespace Span

/-- A text in the terminal's own style. -/
def plain (text : List Char) : Span := ⟨text, .plain⟩

/-- The clusters of a span, each in its style; newlines are left out. -/
def glyphs (span : Span) : List Cell :=
  ((clusters span.text).filter (· ≠ ['\n'])).map fun symbol => ⟨symbol, span.style⟩

end Span

/-- The glyphs of spans one after another. -/
def glyphs (spans : List Span) : List Cell := spans.flatMap Span.glyphs

/-- The cells of glyphs: those without width are left out, and one of several cells is followed by
blank ones. -/
def cells (glyphs : List Cell) : Row :=
  glyphs.flatMap fun glyph =>
    if glyph.width = 0 then [] else glyph :: Row.blank (glyph.width - 1)

end AnalysisDesk.Screen
