/-! # Areas of the screen
How the screen is shared out. Rows are granted in a fixed order as far as there are any, so that on
a low screen the viewers stay and the header goes first. -/

namespace AnalysisDesk.Screen

/-- A rectangle of cells. -/
structure Area where
  /-- The column of its left edge. -/
  x : Nat
  /-- The row of its top edge. -/
  y : Nat
  /-- Its width. -/
  width : Nat
  /-- Its height. -/
  height : Nat
  deriving DecidableEq, Repr

namespace Area

/-- The column behind the right edge. -/
def right (a : Area) : Nat := a.x + a.width

/-- The row below the bottom edge. -/
def bottom (a : Area) : Nat := a.y + a.height

/-- What a border leaves of an area. -/
def inner (a : Area) : Area :=
  ⟨min (a.x + 1) a.right, min (a.y + 1) a.bottom, a.width - 2, a.height - 2⟩

@[simp] theorem width_inner (a : Area) : a.inner.width = a.width - 2 := rfl

@[simp] theorem height_inner (a : Area) : a.inner.height = a.height - 2 := rfl

end Area

/-- The rows each part of the screen gets, from top to bottom. -/
structure Heights where
  header : Nat
  editor : Nat
  banner : Nat
  results : Nat
  status : Nat
  deriving DecidableEq, Repr

/-- The rows that the viewers need at least. -/
def leastResults : Nat := 3

/-- The rows of the banner with a complaint. -/
def bannerHeight : Nat := 3

/-- Share out the rows of a screen: the viewers' least height, the status bar, the banner if there
is a complaint, the header, half of the screen for the editor, and the rest for the viewers. -/
def Heights.of (height : Nat) (complaint : Bool) : Heights :=
  let results := min leastResults height
  let left := height - results
  let status := min 1 left
  let left := left - status
  let banner := min (if complaint then bannerHeight else 0) left
  let left := left - banner
  let header := min 1 left
  let left := left - header
  let editor := min ((height + 1) / 2) left
  { header, editor, banner, results := results + (left - editor), status }

/-- The parts take up the whole screen. -/
theorem Heights.sum_of (height : Nat) (complaint : Bool) :
    let parts := Heights.of height complaint
    parts.header + parts.editor + parts.banner + parts.results + parts.status = height := by
  simp only [Heights.of, leastResults]
  omega

/-- The columns of the left viewer: two fifths of the screen, a half rounded up. -/
def tokensWidth (width : Nat) : Nat := (4 * width + 5) / 10

/-- The left viewer fits on the screen. -/
theorem tokensWidth_le (width : Nat) : tokensWidth width ≤ width := by
  unfold tokensWidth; omega

end AnalysisDesk.Screen
