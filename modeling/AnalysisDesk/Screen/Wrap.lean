import AnalysisDesk.Screen.Cell
import AnalysisDesk.Text.Blank

/-! # Fitting glyphs into a width
A line that is not wrapped is cut at the first glyph that does not fit. A wrapped line is broken
between words, and blanks at a break are dropped as far as they would have fitted on the line before
it. Glyphs wider than the width are left out either way. -/

namespace AnalysisDesk.Screen

/-- The cells that glyphs take together. -/
def totalWidth (glyphs : List Cell) : Nat := glyphs.foldr (·.width + ·) 0

/-! ## Cutting -/

/-- The glyphs that fit behind `used` cells of a width. -/
def clipFrom (width used : Nat) : List Cell → List Cell
  | [] => []
  | glyph :: rest =>
    if width < glyph.width then clipFrom width used rest
    else if width < used + glyph.width then []
    else glyph :: clipFrom width (used + glyph.width) rest

/-- The glyphs of a line that fit into a width. -/
def clip (width : Nat) (glyphs : List Cell) : List Cell := clipFrom width 0 glyphs

/-- A row with a line cut at its width. -/
def clippedRow (width : Nat) (glyphs : List Cell) : Row := (cells (clip width glyphs)).fit width

@[simp] theorem length_clippedRow (width : Nat) (glyphs : List Cell) :
    (clippedRow width glyphs).length = width := by
  simp [clippedRow]

/-! ## Wrapping -/

/-- Whether a line may break at a glyph: it is blank, but not a single no-break space. -/
def isBreak (glyph : Cell) : Bool :=
  glyph.symbol = ['\u200b'] ||
    (glyph.symbol.all Text.isBlank && glyph.symbol ≠ ['\u00a0'])

/-- Lines wrapped so far, and the line, the blanks and the word that come next. -/
structure Wrapping where
  /-- The lines that are complete, the last one first. -/
  done : List (List Cell)
  /-- The line being filled. -/
  line : List Cell
  /-- The blanks behind the line. -/
  space : List Cell
  /-- The word behind the blanks. -/
  word : List Cell
  /-- Whether the last glyph was part of a word. -/
  inWord : Bool
  deriving Repr

namespace Wrapping

/-- Nothing wrapped yet. -/
def start : Wrapping := ⟨[], [], [], [], false⟩

/-- The blanks and the word go to the end of the line. -/
def flush (w : Wrapping) : Wrapping :=
  { w with line := w.line ++ w.space ++ w.word, space := [], word := [] }

/-- Blanks without those at their front that fit into so many cells. -/
def dropFitting : Nat → List Cell → List Cell
  | _, [] => []
  | room, glyph :: rest =>
    if room < glyph.width then glyph :: rest else dropFitting (room - glyph.width) rest

/-- The line is complete; blanks that would have fitted on it are dropped. -/
def breakLine (width : Nat) (w : Wrapping) : Wrapping :=
  { w with done := w.line :: w.done, line := []
           space := dropFitting (width - totalWidth w.line) w.space }

/-- A glyph goes to the blanks or to the word. -/
def append (glyph : Cell) (w : Wrapping) : Wrapping :=
  if isBreak glyph then { w with space := w.space ++ [glyph], inWord := false }
  else { w with word := w.word ++ [glyph], inWord := true }

/-- Whether a glyph shows that the word is complete, or that it fills a line by itself. -/
def mustFlush (width : Nat) (glyph : Cell) (w : Wrapping) : Bool :=
  (w.inWord && isBreak glyph) ||
    (w.line.isEmpty && width < totalWidth w.word + totalWidth w.space + glyph.width)

/-- Whether a glyph finds no room on the line. -/
def mustBreak (width : Nat) (glyph : Cell) (w : Wrapping) : Bool :=
  width ≤ totalWidth w.line ||
    (0 < glyph.width && width ≤ totalWidth w.line + totalWidth w.space + totalWidth w.word)

/-- One more glyph. A blank at a break is dropped if no blanks are left before it. -/
def step (width : Nat) (w : Wrapping) (glyph : Cell) : Wrapping :=
  if width < glyph.width then w
  else
    let w := if w.mustFlush width glyph then w.flush else w
    if w.mustBreak width glyph then
      let w := w.breakLine width
      if isBreak glyph && w.space.isEmpty then w else w.append glyph
    else w.append glyph

/-- The lines, the first one first, when no more glyphs come; there is at least one. -/
def finish (w : Wrapping) : List (List Cell) :=
  let onlyBlanks := w.line.isEmpty && w.word.isEmpty && !w.space.isEmpty
  let done := if onlyBlanks then [] :: w.done else w.done
  let line := w.flush.line
  let done := if line.isEmpty then done else line :: done
  if done.isEmpty then [[]] else done.reverse

end Wrapping

/-- The lines of glyphs wrapped to a width. -/
def wrap (width : Nat) (glyphs : List Cell) : List (List Cell) :=
  (glyphs.foldl (Wrapping.step width) .start).finish

end AnalysisDesk.Screen
