import AnalysisDesk.Screen.Panel

/-! # Rows as they are shown
What a terminal makes of a row: each cell is covered or not by the one before it, and by nothing
else, so that a part of a row behind a narrow cell is shown as if it stood alone. A line that was cut
at a width brings its own blank cells behind wide clusters and is shown as it stands. -/

namespace AnalysisDesk.Screen

open AnalysisDesk.Text (clusters clusterWidth)

namespace Row

@[simp] theorem settleFrom_nil (covered : Bool) : settleFrom covered [] = [] := rfl

theorem settleFrom_cons (covered : Bool) (cell : Cell) (rest : Row) :
    settleFrom covered (cell :: rest) =
      (if covered then .blank else cell) :: settleFrom (2 ≤ cell.width) rest := rfl

@[simp] theorem settle_nil : settle [] = [] := rfl

/-- What is shown behind a cell depends on that cell alone. -/
theorem settleFrom_append_cons (covered : Bool) (front : Row) (cell : Cell) (back : Row) :
    settleFrom covered (front ++ cell :: back) =
      settleFrom covered (front ++ [cell]) ++ settleFrom (2 ≤ cell.width) back := by
  induction front generalizing covered with
  | nil => rfl
  | cons first front ih =>
    rw [List.cons_append, settleFrom_cons, ih, List.cons_append, settleFrom_cons, List.cons_append]

/-- Behind a narrow cell a row is shown as if it stood alone. -/
theorem settle_append_cons (front : Row) {cell : Cell} (narrow : cell.width ≤ 1) (back : Row) :
    settle (front ++ cell :: back) = settle (front ++ [cell]) ++ settle back := by
  have uncovered : decide (2 ≤ cell.width) = false := decide_eq_false (by omega)
  rw [settle, settleFrom_append_cons, uncovered]
  rfl

/-- The first cells of a row are shown as they are without the rest. -/
theorem settleFrom_take (covered : Bool) (n : Nat) (row : Row) :
    settleFrom covered (row.take n) = (settleFrom covered row).take n := by
  induction row generalizing covered n with
  | nil => rw [List.take_nil, settleFrom_nil, List.take_nil]
  | cons cell rest ih =>
    cases n with
    | zero => rfl
    | succ n => rw [List.take_succ_cons, settleFrom_cons, settleFrom_cons, List.take_succ_cons, ih]

theorem settle_take (n : Nat) (row : Row) : settle (row.take n) = (settle row).take n :=
  settleFrom_take false n row

@[simp] theorem blank_zero : blank 0 = [] := rfl

theorem blank_succ (n : Nat) : blank (n + 1) = .blank :: blank n := rfl

/-- A part in the middle of a row, behind a narrow cell, is shown as if it stood alone. -/
theorem settle_middle (front middle back : Row) {cell : Cell} (narrow : cell.width ≤ 1) :
    ((settle (front ++ cell :: (middle ++ back))).drop (front.length + 1)).take middle.length =
      settle middle := by
  -- The narrow cell covers nothing of the middle, and what is behind the middle does not reach back.
  have length_front : (settle (front ++ [cell])).length = front.length + 1 := by
    rw [length_settle, List.length_append, List.length_singleton]
  rw [settle_append_cons front narrow, List.drop_left' length_front, ← settle_take,
    List.take_left' rfl]

/-! ## Blank cells and fitting -/

/-- A blank cell covers nothing. -/
theorem width_blank : Cell.blank.width = 1 := by decide

/-- Blank cells are shown as they are, and so is what is behind them. -/
theorem settle_blank_append (n : Nat) (back : Row) :
    settle (blank n ++ back) = blank n ++ settle back := by
  induction n with
  | zero => rfl
  | succ n ih =>
    have narrow : Cell.blank.width ≤ 1 := Nat.le_of_eq width_blank
    rw [blank_succ, List.cons_append, ← List.nil_append (Cell.blank :: _),
      settle_append_cons [] narrow, ih]
    rfl

theorem settle_blank (n : Nat) : settle (blank n) = blank n := by
  have shown := settle_blank_append n []
  rwa [settle_nil, List.append_nil] at shown

/-- Behind any cell, wide or narrow, a blank cell and the rest are shown as they stand alone. -/
theorem settle_cons_blank (cell : Cell) (back : Row) :
    settle (cell :: .blank :: back) = cell :: .blank :: settle back := by
  have uncovered : decide (2 ≤ Cell.blank.width) = false := by decide
  rw [settle, settleFrom_cons, settleFrom_cons, uncovered, if_neg Bool.false_ne_true, ite_self]
  rfl

/-- A row of just the width fits as it is. -/
theorem fit_of_length {width : Nat} {row : Row} (h : row.length = width) : row.fit width = row := by
  rw [fit, h, Nat.sub_self, blank_zero, List.append_nil, List.take_of_length_le (Nat.le_of_eq h)]

@[simp] theorem fit_nil (width : Nat) : fit width [] = blank width := by
  rw [fit, List.nil_append, List.length_nil, Nat.sub_zero,
    List.take_of_length_le (Nat.le_of_eq (length_blank width))]

end Row

/-! ## Cells of glyphs -/

@[simp] theorem cells_nil : cells [] = [] := rfl

theorem cells_cons (glyph : Cell) (rest : List Cell) : cells (glyph :: rest) =
    (if glyph.width = 0 then [] else glyph :: Row.blank (glyph.width - 1)) ++ cells rest :=
  List.flatMap_cons

/-- **The cells of glyphs are shown as they stand**: behind each wide one there are blank cells. -/
theorem settle_cells_append (glyphs : List Cell) (back : Row) :
    Row.settle (cells glyphs ++ back) = cells glyphs ++ Row.settle back := by
  induction glyphs with
  | nil => rfl
  | cons glyph rest ih =>
    rw [cells_cons]
    rcases width : glyph.width with - | - | extra
    · rw [if_pos rfl, List.nil_append, ih]
    · have narrow : glyph.width ≤ 1 := Nat.le_of_eq width
      rw [if_neg (by omega), Nat.add_sub_cancel, Row.blank_zero, List.append_assoc,
        List.singleton_append, ← List.nil_append (glyph :: _), Row.settle_append_cons [] narrow, ih]
      rfl
    · -- A wide glyph covers the first of the blank cells behind it, which is blank either way.
      have shown := Row.settle_blank_append extra (cells rest ++ back)
      rw [if_neg (by omega), Nat.add_sub_cancel, Row.blank_succ, List.append_assoc,
        List.cons_append, List.cons_append, Row.settle_cons_blank, shown, ih]
      exact (List.append_assoc (glyph :: Cell.blank :: Row.blank extra) _ _).symm

/-- A line that was cut at a width is shown as it stands. -/
theorem settle_clippedRow (width : Nat) (glyphs : List Cell) :
    (clippedRow width glyphs).settle = clippedRow width glyphs := by
  rw [clippedRow, Row.fit, Row.settle_take, settle_cells_append, Row.settle_blank]

/-- A line with nothing in it is blank. -/
@[simp] theorem clippedRow_nil (width : Nat) : clippedRow width [] = Row.blank width := by
  rw [clippedRow, clip, clipFrom, cells_nil, Row.fit_nil]

/-- What is in a panel's row is shown as it stands, whether or not a line is there. -/
theorem settle_fit_getD (width : Nat) (lines : List (List Char)) (i : Nat) :
    Row.settle (Row.fit width
      (((lines.map fun line => clippedRow width (Span.plain line).glyphs)[i]?).getD [])) =
    clippedRow width (Span.plain ((lines[i]?).getD [])).glyphs := by
  rw [List.getElem?_map]
  cases lines[i]? with
  | none =>
    rw [Option.map_none, Option.getD_none, Option.getD_none, Row.fit_nil, Row.settle_blank]
    exact (clippedRow_nil width).symm
  | some line =>
    rw [Option.map_some, Option.getD_some, Option.getD_some,
      Row.fit_of_length (length_clippedRow _ _), settle_clippedRow]

end AnalysisDesk.Screen
