import AnalysisDesk.Proofs.Screen.Source

/-! # The cursor on the screen
The terminal's cursor stands where the cursor of the source is drawn. The row always fits, because
the first row follows the cursor; a column is narrowed to a position of the screen before it is
compared with the width of the panel, so that behind the last position it comes around to the first
cells. -/

namespace AnalysisDesk.Screen

open AnalysisDesk.Desk (State)
open AnalysisDesk.Editor (Buffer Edit)
open AnalysisDesk.Text (clusters clusterWidth)

/-! ## Where the cursor is put -/

/-- The header and the editor take no more rows than there are. -/
theorem header_add_editor_le (s : State) (height : Nat) :
    (partsFor s height).header + (partsFor s height).editor ≤ height := by
  have sum := Heights.sum_of height s.complaint.isSome
  unfold partsFor
  omega

/-- The row of the cursor is inside the editor's panel, and a position of the screen. -/
theorem row_inside (s : State) (width : Nat) {height : Nat} (hheight : height ≤ lastPosition)
    (tall : 0 < (editorArea s width height).inner.height) :
    (s.surface.buffer.row - firstRow s width height) % positions =
        s.surface.buffer.row - firstRow s width height ∧
      min ((editorArea s width height).inner.y +
          (s.surface.buffer.row - firstRow s width height)) lastPosition =
        (editorArea s width height).inner.y + (s.surface.buffer.row - firstRow s width height) ∧
      (editorArea s width height).inner.y + (s.surface.buffer.row - firstRow s width height) <
        (editorArea s width height).inner.bottom := by
  have inScreen := header_add_editor_le s height
  have row_lt := s.surface.row_lt_scrollFor_add _ tall
  have first : firstRow s width height =
    s.surface.scrollFor (editorArea s width height).inner.height := rfl
  have hy : (editorArea s width height).inner.y =
      min ((partsFor s height).header + 1)
        ((partsFor s height).header + (partsFor s height).editor) := rfl
  have hh : (editorArea s width height).inner.height = (partsFor s height).editor - 2 := rfl
  have last : lastPosition = 65535 := rfl
  have all : positions = 65536 := rfl
  unfold Area.bottom
  refine ⟨Nat.mod_eq_of_lt ?_, ?_, ?_⟩
  · omega
  · omega
  · omega

/-- A column of the editor's panel is inside it if the panel is wider. -/
theorem column_inside (s : State) {width : Nat} (height : Nat) (hwidth : width ≤ lastPosition)
    {column : Nat} (inside : column < (editorArea s width height).inner.width) :
    min ((editorArea s width height).inner.x + column) lastPosition =
        (editorArea s width height).inner.x + column ∧
      (editorArea s width height).inner.x + column < (editorArea s width height).inner.right := by
  have hx : (editorArea s width height).inner.x = min (0 + 1) (0 + width) := rfl
  have hw : (editorArea s width height).inner.width = width - 2 := rfl
  unfold Area.right
  refine ⟨?_, ?_⟩
  · omega
  · omega

/-- Any other column is behind the panel. -/
theorem not_column_inside (s : State) {width : Nat} (height : Nat) (hwidth : width ≤ lastPosition)
    {column : Nat} (outside : ¬column < (editorArea s width height).inner.width) :
    ¬min ((editorArea s width height).inner.x + column) lastPosition <
      (editorArea s width height).inner.right := by
  have hx : (editorArea s width height).inner.x = min (0 + 1) (0 + width) := rfl
  have hw : (editorArea s width height).inner.width = width - 2 := rfl
  unfold Area.right
  omega

/-- **The cursor of a drawing** stands in the column of the source's cursor, narrowed to a position,
if that is inside the panel, and in the row that its line is drawn in. -/
theorem cursor_of_draw? {s : State} {width height : Nat} {p : Picture}
    (drawing : draw? s width height = some p) (focused : s.panel = .editor)
    (hwidth : width ≤ lastPosition) (hheight : height ≤ lastPosition)
    (tall : 0 < (editorArea s width height).inner.height) :
    p.cursor =
      if s.surface.buffer.column % positions < (editorArea s width height).inner.width then
        some ((editorArea s width height).inner.x + s.surface.buffer.column % positions,
          (editorArea s width height).inner.y +
            (s.surface.buffer.row - firstRow s width height))
      else none := by
  obtain ⟨row, inRows, above⟩ := row_inside s width hheight tall
  obtain ⟨-, -, rfl⟩ := (draw?_eq_some_iff s width height).mp drawing
  change editorCursor s (editorArea s width height).inner (firstRow s width height) = _
  unfold editorCursor
  rw [row, inRows]
  -- The row is inside the panel, so that the column decides.
  by_cases inside :
    s.surface.buffer.column % positions < (editorArea s width height).inner.width
  · obtain ⟨inColumns, before⟩ := column_inside s height hwidth inside
    rw [if_pos inside, inColumns, if_pos]
    simp only [focused, tall, before, above, decide_true, Bool.and_self]
  · have behind := not_column_inside s height hwidth inside
    rw [if_neg inside, if_neg]
    simp only [behind, decide_false, Bool.and_false, Bool.false_and, Bool.false_eq_true,
      not_false_eq_true]

/-! ## Lines of one cell for each character -/

/-- Characters that stand alone, each in one cell. -/
structure OneCell (line : List Char) : Prop where
  /-- None of them joins another in a cluster. -/
  alone : clusters line = line.map fun c => [c]
  /-- Each takes one cell. -/
  narrow : ∀ c ∈ line, clusterWidth [c] = 1

/-- The cell of a character in the terminal's own style. -/
def plainCell (c : Char) : Cell := ⟨[c], .plain⟩

/-- The cell that shows a character, blank where there is none. -/
def cellOf (c : Option Char) : Cell := c.elim .blank plainCell

/-- As many narrow glyphs fit as there are cells. -/
theorem clipFrom_of_narrow {width used : Nat} {glyphs : List Cell}
    (narrow : ∀ glyph ∈ glyphs, glyph.width = 1) (h : used ≤ width) :
    clipFrom width used glyphs = glyphs.take (width - used) := by
  induction glyphs generalizing used with
  | nil => rw [clipFrom, List.take_nil]
  | cons glyph rest ih =>
    obtain ⟨one, narrow⟩ := List.forall_mem_cons.mp narrow
    rw [clipFrom, one]
    by_cases full : used = width
    · -- Without any cells left, the glyph is left out or ends the line.
      rw [full, Nat.sub_self, List.take_zero]
      by_cases none : width < 1
      · rw [if_pos none, ih narrow (Nat.le_refl width), Nat.sub_self, List.take_zero]
      · rw [if_neg none, if_pos (Nat.lt_succ_self width)]
    · have fits : width - used = width - (used + 1) + 1 := by omega
      rw [if_neg (by omega), if_neg (by omega), ih narrow (by omega), fits, List.take_succ_cons]

/-- Narrow glyphs are their own cells. -/
theorem cells_of_narrow {glyphs : List Cell} (narrow : ∀ glyph ∈ glyphs, glyph.width = 1) :
    cells glyphs = glyphs := by
  induction glyphs with
  | nil => rfl
  | cons glyph rest ih =>
    obtain ⟨one, narrow⟩ := List.forall_mem_cons.mp narrow
    rw [cells_cons, one, if_neg Nat.one_ne_zero, ih narrow]
    rfl

/-- The glyphs of a line of one cell for each character. -/
theorem OneCell.glyphs_eq {line : List Char} (h : OneCell line) (single : '\n' ∉ line) :
    (Span.plain line).glyphs = line.map plainCell := by
  have kept : (line.map fun c => [c]).filter (· ≠ ['\n']) = line.map fun c => [c] := by
    refine List.filter_eq_self.mpr fun cluster hmem => ?_
    obtain ⟨c, hc, rfl⟩ := List.mem_map.mp hmem
    refine decide_eq_true fun newline => single ?_
    rwa [← List.singleton_inj.mp newline]
  unfold Span.glyphs Span.plain
  rw [h.alone, kept, List.map_map]
  rfl

/-- **A line of one cell for each character** shows each character in the cell of its column. -/
theorem OneCell.getElem?_lineRow {chars : List Char} (h : OneCell chars) (single : '\n' ∉ chars)
    {width column : Nat} (inside : column < width) :
    (lineRow width chars)[column]? = some (cellOf chars[column]?) := by
  have narrow : ∀ glyph ∈ chars.map plainCell, glyph.width = 1 := by
    intro glyph hmem
    obtain ⟨c, hc, rfl⟩ := List.mem_map.mp hmem
    exact h.narrow c hc
  have kept : ∀ glyph ∈ (chars.map plainCell).take width, glyph.width = 1 :=
    fun glyph hmem => narrow glyph (List.mem_of_mem_take hmem)
  rw [lineRow, h.glyphs_eq single, clippedRow, clip, clipFrom_of_narrow narrow (Nat.zero_le width),
    Nat.sub_zero, cells_of_narrow kept, Row.fit, List.getElem?_take_of_lt inside]
  by_cases there : column < chars.length
  · have inTaken : column < ((chars.map plainCell).take width).length := by
      rw [List.length_take, List.length_map]
      omega
    rw [List.getElem?_append_left inTaken, List.getElem?_take_of_lt inside, List.getElem?_map,
      List.getElem?_eq_getElem there]
    rfl
  · have missing : chars[column]? = none := List.getElem?_eq_none (Nat.le_of_not_lt there)
    have short : ((chars.map plainCell).take width).length ≤ column := by
      rw [List.length_take, List.length_map]
      omega
    have inBlank : column - ((chars.map plainCell).take width).length <
        width - ((chars.map plainCell).take width).length := by omega
    rw [List.getElem?_append_right short, Row.blank, List.getElem?_replicate_of_lt inBlank, missing]
    rfl

/-! ## The cell under the cursor -/

/-- A cell of a picture. -/
def Picture.cellAt (p : Picture) (place : Nat × Nat) : Option Cell :=
  (p.rows[place.2]?).bind (·[place.1]?)

/-- A cell of a row of an area is a cell of the picture. -/
theorem cellAt_of_rowIn {p : Picture} {a : Area} {i column : Nat} {cell : Cell}
    (h : (p.rowIn a i)[column]? = some cell) (inside : column < a.width) :
    p.cellAt (a.x + column, a.y + i) = some cell := by
  unfold Picture.rowIn at h
  unfold Picture.cellAt
  rw [List.getElem?_take_of_lt inside, List.getElem?_drop] at h
  cases found : p.rows[a.y + i]? with
  | none =>
    rw [found, Option.getD_none, List.getElem?_nil] at h
    cases h
  | some row =>
    rw [found, Option.getD_some] at h
    exact h

/-- **The cursor marks a place in the source**, or it is not shown. -/
structure Marks (p : Picture) (b : Buffer) (inner : Area) (first : Nat) : Prop where
  /-- A column inside the panel is marked, in the row of its line. -/
  shown : b.column < inner.width →
    p.cursor = some (inner.x + b.column, inner.y + (b.row - first))
  /-- A column that is not inside the panel is not marked. -/
  hidden : inner.width ≤ b.column → p.cursor = none
  /-- In a line of one cell for each character, the character behind the cursor is marked. -/
  cell : ∀ chars, b.lines[b.row]? = some chars → OneCell chars →
    ∀ place, p.cursor = some place → p.cellAt place = some (cellOf chars[b.column]?)

/-- **The cursor on the screen marks the cursor of the source** in every drawing, whatever was
edited and whatever the size of the screen, as long as its column is a position that the screen can
name; and there is a drawing just if both viewers can be drawn. -/
theorem cursor_marks (s : State) (text : List Char) (edits : List Edit)
    (edited : s.surface.buffer = edits.foldl Buffer.edit (.ofText text))
    (focused : s.panel = .editor) (width height : UInt16)
    (tall : 0 < (editorArea s width.toNat height.toNat).inner.height)
    (near : s.surface.buffer.column ≤ lastPosition) :
    (∀ p, draw? s width.toNat height.toNat = some p →
      Marks p s.surface.buffer (editorArea s width.toNat height.toNat).inner
        (firstRow s width.toNat height.toNat)) ∧
    ((draw? s width.toNat height.toNat).isSome = true ↔
      ∀ side : Side, Drawable (side.viewer s) (side.area s width.toNat height.toNat).inner) := by
  refine ⟨fun p drawing => ?_, isSome_draw?_iff s width.toNat height.toNat⟩
  obtain ⟨b, -, reached, well⟩ := (Buffer.wellFormed_ofText text).foldlM_edit? edits
  have well : s.surface.buffer.WellFormed := by rwa [edited, reached]
  have position (n : UInt16) : n.toNat ≤ lastPosition := Nat.le_of_lt_succ n.toNat_lt
  have cursor := cursor_of_draw? drawing focused (position width) (position height) tall
  have narrowed : s.surface.buffer.column % positions = s.surface.buffer.column :=
    Nat.mod_eq_of_lt (Nat.lt_succ_of_le near)
  rw [narrowed] at cursor
  refine ⟨fun inside => ?_, fun outside => ?_, fun line found oneCell place marked => ?_⟩
  · rw [cursor, if_pos inside]
  · rw [cursor, if_neg (Nat.not_lt.mpr outside)]
  · by_cases inside :
      s.surface.buffer.column < (editorArea s width.toNat height.toNat).inner.width
    · rw [cursor, if_pos inside] at marked
      obtain ⟨i, inPanel, atRow, shownLine, found', shown⟩ :=
        (redrawn s width.toNat height.toNat well.row_lt).cursor_shown tall
      have same : line = shownLine := Option.some.inj (found.symm.trans found')
      have single : '\n' ∉ line := well.newline_notMem line (List.mem_of_getElem? found)
      have row : s.surface.buffer.row - firstRow s width.toNat height.toNat = i := by omega
      rw [← Option.some.inj marked, row]
      refine cellAt_of_rowIn ?_ inside
      rw [shown p drawing, ← same]
      exact oneCell.getElem?_lineRow single inside
    · rw [cursor, if_neg inside] at marked
      cases marked

/-- A desk whose cursor was moved into the second line. -/
def editing : State :=
  ((State.opening ['a', 'b', '\n', 'c', 'd'] none).edit .down).edit .right

theorem editing_marked :
    ∃ p, draw? editing 40 12 = some p ∧ p.cursor = some (2, 3) ∧
      p.cellAt (2, 3) = some (plainCell 'd') := by
  obtain ⟨marks, -⟩ := cursor_marks editing ['a', 'b', '\n', 'c', 'd'] [.down, .right] rfl rfl
    40 12 (by decide) (by decide)
  obtain ⟨p, drawing⟩ := exists_drawing_of_empty editing 40 12 fun side => by cases side <;> rfl
  have narrow : ∀ c ∈ ['c', 'd'], clusterWidth [c] = 1 := by
    rw [List.forall_mem_cons, List.forall_mem_singleton]
    exact ⟨by decide +kernel, by decide +kernel⟩
  have oneCell : OneCell ['c', 'd'] := ⟨by decide +kernel, narrow⟩
  have shown : p.cursor = some (2, 3) := (marks p drawing).shown (by decide)
  exact ⟨p, drawing, shown, (marks p drawing).cell ['c', 'd'] (by decide) oneCell (2, 3) shown⟩

/-! ## A column that the screen cannot name -/

/-- Letters stand alone in one cell each, however many there are. -/
theorem oneCell_replicate (n : Nat) : OneCell (List.replicate n 'a') := by
  have next : (Text.Seam.start 'a').next 'a' = .start 'a' := by decide +kernel
  have apart : (Text.Seam.start 'a').joins 'a' = false := by decide +kernel
  have begun : ∀ n, Text.clustersFrom (.start 'a') ['a'] (List.replicate n 'a') =
      List.replicate (n + 1) ['a'] := by
    intro n
    induction n with
    | zero => rfl
    | succ n ih =>
      rw [List.replicate_succ, Text.clustersFrom, apart, if_neg Bool.false_ne_true, next, ih]
      rfl
  refine ⟨?_, fun c hmem => ?_⟩
  · rw [List.map_replicate]
    cases n with
    | zero => rfl
    | succ n => exact begun n
  · rw [List.eq_of_mem_replicate hmem]
    decide +kernel

/-- A desk with its cursor at the end of a line of so many letters. -/
def endOfLine (letters : Nat) : State :=
  (State.opening (List.replicate letters 'a') none).edit .lineEnd

theorem edited_endOfLine (letters : Nat) : (endOfLine letters).surface.buffer =
    [Edit.lineEnd].foldl Buffer.edit (.ofText (List.replicate letters 'a')) := rfl

theorem buffer_endOfLine (letters : Nat) :
    (endOfLine letters).surface.buffer = ⟨[List.replicate letters 'a'], 0, letters⟩ := by
  have single : '\n' ∉ List.replicate letters 'a' := by
    intro h
    exact absurd (List.eq_of_mem_replicate h) (by decide)
  have opened : Buffer.ofText (List.replicate letters 'a') =
      ⟨[List.replicate letters 'a'], 0, 0⟩ := by
    rw [Buffer.ofText, Text.splitLines_of_notMem single]
  have ended : Buffer.edit ⟨[List.replicate letters 'a'], 0, 0⟩ .lineEnd =
      ⟨[List.replicate letters 'a'], 0, (List.replicate letters 'a').length⟩ := rfl
  change (Buffer.ofText (List.replicate letters 'a')).edit .lineEnd = _
  rw [opened, ended, List.length_replicate]

/-- **A column behind the last position comes around**: at the end of so long a line the cursor is
shown over the first letter, although the panel has far fewer columns. -/
theorem farColumn_comes_around :
    (endOfLine 65536).panel = .editor ∧
      (endOfLine 65536).surface.buffer =
        [Edit.lineEnd].foldl Buffer.edit (.ofText (List.replicate 65536 'a')) ∧
      (endOfLine 65536).surface.buffer.lines[(endOfLine 65536).surface.buffer.row]? =
        some (List.replicate 65536 'a') ∧
      OneCell (List.replicate 65536 'a') ∧
      (editorArea (endOfLine 65536) 80 24).inner = ⟨1, 2, 78, 10⟩ ∧
      (endOfLine 65536).surface.buffer.column = 65536 ∧
      ∃ p, draw? (endOfLine 65536) 80 24 = some p ∧ p.cursor = some (1, 2) := by
  have buffer := buffer_endOfLine 65536
  have area : (editorArea (endOfLine 65536) 80 24).inner = ⟨1, 2, 78, 10⟩ := rfl
  have column : (endOfLine 65536).surface.buffer.column = 65536 := by rw [buffer]
  have row : (endOfLine 65536).surface.buffer.row = 0 := by rw [buffer]
  obtain ⟨p, drawing⟩ := exists_drawing_of_empty (endOfLine 65536) 80 24
    fun side => by cases side <;> rfl
  have cursor := cursor_of_draw? drawing rfl (by decide) (by decide)
    (show 0 < (editorArea (endOfLine 65536) 80 24).inner.height by rw [area]; decide)
  have narrowed : 65536 % positions = 0 := rfl
  refine ⟨rfl, edited_endOfLine 65536, ?_, oneCell_replicate 65536, area, column, p, drawing, ?_⟩
  · rw [buffer]
    rfl
  · rw [cursor, column, narrowed, row, Nat.zero_sub, area]
    rfl

end AnalysisDesk.Screen
