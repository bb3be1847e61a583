import AnalysisDesk.Json.Printer
import AnalysisDesk.Text.Lines

/-! # Viewers
A viewer shows the text of one part of an analysis from some line on. A new text replaces the old
one whole and is shown from its first line; scrolling never goes past the last line. -/

namespace AnalysisDesk.Desk

open AnalysisDesk.Text (displayedLines)

/-- A text on display, from some line on. -/
structure Viewer where
  /-- The title over the text. -/
  title : String
  /-- The text, empty until the first analysis. -/
  text : List Char
  /-- The first line shown. -/
  scroll : Nat
  deriving DecidableEq, Repr

/-- A way to move over the lines of a viewer. -/
inductive Scroll
  | up (lines : Nat)
  | down (lines : Nat)
  | top
  | bottom
  deriving DecidableEq, Repr

namespace Viewer

/-- A viewer with nothing to show. -/
def titled (title : String) : Viewer := ⟨title, [], 0⟩

/-- Show a value, from its first line on. -/
def present (v : Viewer) (value : Json.Value) : Viewer :=
  { v with text := value.indented 0, scroll := 0 }

/-- The number of lines of the text. -/
def lineCount (v : Viewer) : Nat := (displayedLines v.text).length

/-- The number of the last line, zero for an empty text. -/
def lastLine (v : Viewer) : Nat := v.lineCount - 1

/-- Move over the lines. The sum on the way down is exact. Machine words of 64 bits hold it if
`v.scroll + lines < 2 ^ 64`, and keys go no further than ten lines at a time. -/
def move (v : Viewer) : Scroll → Viewer
  | .up lines => { v with scroll := v.scroll - lines }
  | .down lines => { v with scroll := min (v.scroll + lines) v.lastLine }
  | .top => { v with scroll := 0 }
  | .bottom => { v with scroll := v.lastLine }

@[simp] theorem text_present (v : Viewer) (value : Json.Value) :
    (v.present value).text = value.indented 0 := rfl

@[simp] theorem scroll_present (v : Viewer) (value : Json.Value) :
    (v.present value).scroll = 0 := rfl

@[simp] theorem text_move (v : Viewer) (s : Scroll) : (v.move s).text = v.text := by
  cases s <;> rfl

@[simp] theorem lineCount_move (v : Viewer) (s : Scroll) :
    (v.move s).lineCount = v.lineCount := by
  simp [lineCount]

@[simp] theorem lastLine_move (v : Viewer) (s : Scroll) : (v.move s).lastLine = v.lastLine := by
  simp [lastLine]

end Viewer
end AnalysisDesk.Desk
