import AnalysisDesk.Editor.Buffer
import AnalysisDesk.Proofs.Editor.Column

/-! # A buffer seen from its cursor
A `Focus` cuts a buffer at its cursor: the lines above, the characters before the cursor, those after
it, and the lines below. Every edit is a change of the pieces next to the cut. `edit?_buffer` says
that the edits of the buffer are exactly these changes, so that no edit ever asks for text that is
not there. -/

namespace AnalysisDesk.Editor

open AnalysisDesk.Text (splitLines)

/-- The pieces of a buffer around its cursor. -/
structure Focus where
  /-- The lines above the cursor's line, the nearest first. -/
  above : List Line
  /-- The characters before the cursor in its line, the nearest first. -/
  before : Line
  /-- The characters after the cursor in its line. -/
  after : Line
  /-- The lines below the cursor's line. -/
  below : List Line

namespace Focus

/-- The line of the cursor. -/
def line (f : Focus) : Line := f.before.reverse ++ f.after

/-- The lines, from the first to the last. -/
def lines (f : Focus) : List Line := f.above.reverse ++ f.line :: f.below

/-- The buffer that is cut into these pieces. -/
def buffer (f : Focus) : Buffer := ⟨f.lines, f.above.length, f.before.length⟩

/-- The pieces of a new buffer. -/
def ofText (text : List Char) : Focus :=
  ⟨[], [], (splitLines text).headD [], (splitLines text).tail⟩

/-- The cursor put at a column of a line, or at its end if the line is shorter. -/
def place (above : List Line) (line : Line) (column : Nat) (below : List Line) : Focus :=
  ⟨above, (line.take column).reverse, line.drop column, below⟩

/-! ## Edits -/

/-- Split the line at the cursor. -/
def newline (f : Focus) : Focus := ⟨f.before.reverse :: f.above, [], f.after, f.below⟩

/-- Put in a character before the cursor. -/
def insert (f : Focus) (c : Char) : Focus :=
  if c = '\n' then f.newline else { f with before := c :: f.before }

/-- Take out the character before the cursor, or join with the line above. -/
def backspace : Focus → Focus
  | ⟨above, _ :: before, after, below⟩ => ⟨above, before, after, below⟩
  | ⟨line :: above, [], after, below⟩ => ⟨above, line.reverse, after, below⟩
  | ⟨[], [], after, below⟩ => ⟨[], [], after, below⟩

/-- Take out the character after the cursor, or join with the line below. -/
def delete : Focus → Focus
  | ⟨above, before, _ :: after, below⟩ => ⟨above, before, after, below⟩
  | ⟨above, before, [], line :: below⟩ => ⟨above, before, line, below⟩
  | ⟨above, before, [], []⟩ => ⟨above, before, [], []⟩

/-- One character back, to the end of the line above at the start of a line. -/
def left : Focus → Focus
  | ⟨above, c :: before, after, below⟩ => ⟨above, before, c :: after, below⟩
  | ⟨line :: above, [], after, below⟩ => ⟨above, line.reverse, [], after :: below⟩
  | ⟨[], [], after, below⟩ => ⟨[], [], after, below⟩

/-- One character on, to the start of the line below at the end of a line. -/
def right : Focus → Focus
  | ⟨above, before, c :: after, below⟩ => ⟨above, c :: before, after, below⟩
  | ⟨above, before, [], line :: below⟩ => ⟨before.reverse :: above, [], line, below⟩
  | ⟨above, before, [], []⟩ => ⟨above, before, [], []⟩

/-- To the line above, no further right than its end. -/
def up (f : Focus) : Focus :=
  match f.above with
  | [] => f
  | target :: above => place above target f.before.length (f.line :: f.below)

/-- To the line below, no further right than its end. -/
def down (f : Focus) : Focus :=
  match f.below with
  | [] => f
  | target :: below => place (f.line :: f.above) target f.before.length below

/-- To the start of the line. -/
def home (f : Focus) : Focus := ⟨f.above, [], f.line, f.below⟩

/-- To the end of the line. -/
def lineEnd (f : Focus) : Focus := ⟨f.above, f.line.reverse, [], f.below⟩

/-- The pieces after an edit. -/
def edit (f : Focus) : Edit → Focus
  | .char c => f.insert c
  | .text s => s.foldl insert f
  | .newline => f.newline
  | .indent => indentation.foldl insert f
  | .backspace => f.backspace
  | .delete => f.delete
  | .left => f.left
  | .right => f.right
  | .up => f.up
  | .down => f.down
  | .home => f.home
  | .lineEnd => f.lineEnd
  | .replace s => ofText s

/-! ## The buffer of the pieces -/

@[simp] theorem row_buffer (f : Focus) : f.buffer.row = f.above.length := rfl

@[simp] theorem column_buffer (f : Focus) : f.buffer.column = f.before.length := rfl

@[simp] theorem lines_buffer (f : Focus) : f.buffer.lines = f.lines := rfl

/-- The pieces of a new buffer make up that buffer. -/
@[simp] theorem buffer_ofText (text : List Char) : (ofText text).buffer = .ofText text := by
  obtain ⟨first, rest, h⟩ := List.exists_cons_of_ne_nil (Text.splitLines_ne_nil text)
  unfold buffer ofText lines line Buffer.ofText
  rw [h]
  rfl

/-- The row of the cursor holds the cursor's line. -/
@[simp] theorem getElem?_lines (f : Focus) : f.lines[f.above.length]? = some f.line := by
  simp [lines]

/-- Replacing the line of the cursor. -/
@[simp] theorem set_lines (f : Focus) (line : Line) :
    f.lines.set f.above.length line = f.above.reverse ++ line :: f.below := by
  simp [lines]

/-- The offset of the cursor is the length in bytes of the characters before it. -/
@[simp] theorem byteOffset_line (f : Focus) :
    f.line.byteOffset f.before.length = Text.byteLength f.before.reverse := by
  rw [line, ← List.length_reverse, Line.byteOffset_append]

/-- The number of lines. -/
theorem length_lines (f : Focus) : f.lines.length = f.above.length + 1 + f.below.length := by
  simp only [lines, List.length_append, List.length_reverse, List.length_cons]
  omega

/-- The number of characters of the cursor's line. -/
theorem length_line (f : Focus) : f.line.length = f.before.length + f.after.length := by
  rw [line, List.length_append, List.length_reverse]

/-! ## Edits of the buffer are changes of the pieces -/

/-- A line put in behind the one that follows some lines. -/
theorem insertIdx_append_cons (above below : List Line) (line new : Line) :
    (above ++ line :: below).insertIdx (above.length + 1) new = above ++ line :: new :: below := by
  induction above with
  | nil => rfl
  | cons first above ih =>
    rw [List.cons_append, List.length_cons, List.insertIdx_succ_cons, ih]
    rfl

/-- Splitting the line. -/
theorem newline?_buffer (f : Focus) : f.buffer.newline? = some f.newline.buffer := by
  have hlines : (f.above.reverse ++ f.before.reverse :: f.below).insertIdx (f.above.length + 1)
      f.after = f.newline.lines := by
    rw [← List.length_reverse, insertIdx_append_cons]
    simp [newline, lines, line]
  -- The offset that the buffer splits at is the length in bytes of what is before the cut.
  unfold Buffer.newline?
  rw [lines_buffer, row_buffer, column_buffer, getElem?_lines]
  simp only [Option.bind_eq_bind, Option.bind_some, byteOffset_line]
  rw [line, Line.splitAt?_byteLength]
  simp only [Option.bind_some, set_lines, hlines]
  rfl

/-- Putting in a character. -/
theorem insert?_buffer (f : Focus) (c : Char) : f.buffer.insert? c = some (f.insert c).buffer := by
  unfold Buffer.insert? insert
  split
  · exact newline?_buffer f
  · rw [lines_buffer, row_buffer, column_buffer, getElem?_lines]
    simp only [Option.bind_eq_bind, Option.bind_some, byteOffset_line]
    rw [line, Line.insertAt?_byteLength]
    simp [buffer, lines, line]

/-- Putting in characters one after another. -/
theorem insertAll?_buffer (s : List Char) (f : Focus) :
    Buffer.insertAll? s f.buffer = some (s.foldl insert f).buffer := by
  induction s generalizing f with
  | nil => rfl
  | cons c rest ih =>
    rw [Buffer.insertAll?, insert?_buffer]
    exact ih (f.insert c)

/-- Taking out backwards: a character, a line break, or nothing at the start of the text. -/
theorem backspace?_buffer (f : Focus) : f.buffer.backspace? = some f.backspace.buffer := by
  obtain ⟨above, before, after, below⟩ := f
  unfold Buffer.backspace?
  -- The pieces next to the cut decide which branch of the buffer's edit is taken.
  cases before with
  | cons c before =>
    have hline :
        (⟨above, c :: before, after, below⟩ : Focus).line = before.reverse ++ c :: after := by
      simp [line]
    rw [lines_buffer, row_buffer, column_buffer, getElem?_lines, hline]
    simp only [Option.bind_eq_bind, Option.bind_some, List.length_cons, Nat.add_sub_cancel,
      Nat.succ_pos, if_true]
    rw [← List.length_reverse, Line.byteOffset_append, Line.removeAt?_byteLength]
    simp [buffer, lines, line, backspace]
  | nil =>
    cases above with
    | cons target above =>
      -- The cursor's line is joined to the one above: the two stand side by side in the buffer.
      have hlines : (⟨target :: above, [], after, below⟩ : Focus).lines =
          above.reverse ++ target :: after :: below := by
        simp [lines, line]
      rw [lines_buffer, row_buffer, column_buffer, getElem?_lines, hlines]
      simp [buffer, lines, line, backspace, List.eraseIdx_append_of_length_le]
    | nil => rfl

/-- Taking out forwards: a character, a line break, or nothing at the end of the text. -/
theorem delete?_buffer (f : Focus) : f.buffer.delete? = some f.delete.buffer := by
  obtain ⟨above, before, after, below⟩ := f
  unfold Buffer.delete?
  rw [lines_buffer, row_buffer, column_buffer, getElem?_lines]
  simp only [Option.bind_eq_bind, Option.bind_some, length_line]
  cases after with
  | cons c after =>
    have hline :
        (⟨above, before, c :: after, below⟩ : Focus).line = before.reverse ++ c :: after := rfl
    rw [if_pos (by simp), hline, ← List.length_reverse, Line.byteOffset_append,
      Line.removeAt?_byteLength]
    simp [buffer, lines, line, delete]
  | nil =>
    rw [if_neg (by simp)]
    -- At the end of a line the next one is joined, if there is one.
    cases below with
    | cons target below =>
      have hbelow : (⟨above, before, [], target :: below⟩ : Focus).lines[above.length + 1]? =
          some target := by
        simp [lines]
      rw [if_pos (by simp [length_lines]), hbelow]
      simp [buffer, lines, line, delete, List.eraseIdx_append_of_length_le]
    | nil =>
      rw [if_neg (by simp [length_lines])]
      rfl

/-! ## Moves -/

/-- One character back. -/
theorem left?_buffer (f : Focus) : f.buffer.left? = some f.left.buffer := by
  obtain ⟨above, before, after, below⟩ := f
  unfold Buffer.left?
  cases before with
  | cons c before => simp [buffer, lines, line, left]
  | nil =>
    cases above with
    | cons target above => simp [buffer, lines, line, left]
    | nil => rfl

/-- One character on. -/
theorem right?_buffer (f : Focus) : f.buffer.right? = some f.right.buffer := by
  obtain ⟨above, before, after, below⟩ := f
  unfold Buffer.right?
  rw [lines_buffer, row_buffer, column_buffer, getElem?_lines]
  simp only [Option.bind_eq_bind, Option.bind_some, length_line, length_lines]
  cases after with
  | cons c after => simp [buffer, lines, line, right]
  | nil =>
    cases below with
    | cons target below => simp [buffer, lines, line, right]
    | nil => simp [right]

/-- Placing the cursor in a line keeps the lines. -/
theorem buffer_place (above : List Line) (line : Line) (column : Nat) (below : List Line) :
    (place above line column below).buffer =
      ⟨above.reverse ++ line :: below, above.length, min column line.length⟩ := by
  simp [place, buffer, lines, Focus.line]

/-- To the line above. -/
theorem up?_buffer (f : Focus) : f.buffer.up? = some f.up.buffer := by
  obtain ⟨above, before, after, below⟩ := f
  unfold Buffer.up? up
  cases above with
  | cons target above =>
    rw [buffer_place]
    simp [lines]
  | nil => rfl

/-- To the line below. -/
theorem down?_buffer (f : Focus) : f.buffer.down? = some f.down.buffer := by
  obtain ⟨above, before, after, below⟩ := f
  unfold Buffer.down? down
  rw [lines_buffer, row_buffer, length_lines]
  cases below with
  | cons target below =>
    rw [buffer_place]
    simp [lines]
  | nil => simp

/-- To the end of the line. -/
theorem lineEnd?_buffer (f : Focus) : f.buffer.lineEnd? = some f.lineEnd.buffer := by
  have hlines : f.lineEnd.lines = f.lines := by simp [lineEnd, lines, line]
  have hcolumn : f.lineEnd.before.length = f.line.length := by simp [lineEnd]
  unfold Buffer.lineEnd?
  rw [lines_buffer, row_buffer, getElem?_lines, buffer, hlines, hcolumn]
  rfl

/-- **No edit fails**: each edit of the buffer is the edit of its pieces. -/
theorem edit?_buffer (f : Focus) (e : Edit) : f.buffer.edit? e = some (f.edit e).buffer := by
  cases e with
  | char c => exact insert?_buffer f c
  | text s => exact insertAll?_buffer s f
  | newline => exact newline?_buffer f
  | indent => exact insertAll?_buffer indentation f
  | backspace => exact backspace?_buffer f
  | delete => exact delete?_buffer f
  | left => exact left?_buffer f
  | right => exact right?_buffer f
  | up => exact up?_buffer f
  | down => exact down?_buffer f
  | home => simp [Buffer.edit?, edit, home, buffer, lines, line]
  | lineEnd => exact lineEnd?_buffer f
  | replace s => rw [edit, buffer_ofText]; rfl

end Focus
end AnalysisDesk.Editor
