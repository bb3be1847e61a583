import AnalysisDesk.Editor.Line
import AnalysisDesk.Text.Lines

/-! # Source buffer
The source is a list of lines with one cursor, a row and a column counted in characters. Each edit
is partial: it asks for the lines it touches and edits them at byte offsets, and gives nothing if
one of them is not there. From a buffer made by `ofText` that never happens. -/

namespace AnalysisDesk.Editor

open AnalysisDesk.Text (splitLines joinLines)

/-- Lines of source and a cursor among them. -/
structure Buffer where
  /-- The lines; a buffer made from a text has at least one. -/
  lines : List Line
  /-- The row of the cursor. -/
  row : Nat
  /-- The column of the cursor, in characters. -/
  column : Nat
  deriving DecidableEq, Repr

/-- What a user can do to a buffer. -/
inductive Edit
  /-- Put in a character, where a newline splits the line. -/
  | char (c : Char)
  /-- Put in characters one after another. -/
  | text (s : List Char)
  /-- Split the line at the cursor. -/
  | newline
  /-- Put in one step of indentation. -/
  | indent
  /-- Take out the character before the cursor, or join with the line above. -/
  | backspace
  /-- Take out the character under the cursor, or join with the line below. -/
  | delete
  | left
  | right
  | up
  | down
  /-- Go to the start of the line. -/
  | home
  /-- Go to the end of the line. -/
  | lineEnd
  /-- Begin anew with another text. -/
  | replace (s : List Char)
  deriving DecidableEq, Repr

/-- One step of indentation. -/
def indentation : List Char := [' ', ' ']

namespace Buffer

/-- A buffer that holds a text, with the cursor at its start. -/
def ofText (text : List Char) : Buffer := ⟨splitLines text, 0, 0⟩

/-- The lines with a newline between each two. -/
def text (b : Buffer) : List Char := joinLines b.lines

/-- Whether the buffer holds one line and that line is empty. -/
def isEmpty (b : Buffer) : Bool := b.lines = [[]]

/-! ## Putting in -/

/-- Split the cursor's line at the cursor, which goes to the start of the second part. -/
def newline? (b : Buffer) : Option Buffer := do
  let line ← b.lines[b.row]?
  let (before, after) ← Line.splitAt? (line.byteOffset b.column) line
  return ⟨(b.lines.set b.row before).insertIdx (b.row + 1) after, b.row + 1, 0⟩

/-- Put in a character at the cursor, which goes behind it. -/
def insert? (c : Char) (b : Buffer) : Option Buffer :=
  if c = '\n' then b.newline?
  else do
    let line ← b.lines[b.row]?
    let line ← line.insertAt? (line.byteOffset b.column) c
    return ⟨b.lines.set b.row line, b.row, b.column + 1⟩

/-- Put in characters at the cursor, one after another. -/
def insertAll? : List Char → Buffer → Option Buffer
  | [], b => some b
  | c :: rest, b => do insertAll? rest (← b.insert? c)

/-! ## Taking out -/

/-- Take out the character before the cursor, or join with the line above. -/
def backspace? (b : Buffer) : Option Buffer :=
  if 0 < b.column then do
    let line ← b.lines[b.row]?
    let line ← line.removeAt? (line.byteOffset (b.column - 1))
    return ⟨b.lines.set b.row line, b.row, b.column - 1⟩
  else if 0 < b.row then do
    let line ← b.lines[b.row]?
    let above ← b.lines[b.row - 1]?
    return ⟨(b.lines.eraseIdx b.row).set (b.row - 1) (above ++ line), b.row - 1, above.length⟩
  else some b

/-- Take out the character under the cursor, or join with the line below. -/
def delete? (b : Buffer) : Option Buffer := do
  let line ← b.lines[b.row]?
  if b.column < line.length then do
    let line ← line.removeAt? (line.byteOffset b.column)
    return { b with lines := b.lines.set b.row line }
  else if b.row + 1 < b.lines.length then do
    let below ← b.lines[b.row + 1]?
    return { b with lines := (b.lines.eraseIdx (b.row + 1)).set b.row (line ++ below) }
  else some b

/-! ## Moving -/

/-- One character back, to the end of the line above at the start of a line. -/
def left? (b : Buffer) : Option Buffer :=
  if 0 < b.column then some { b with column := b.column - 1 }
  else if 0 < b.row then do
    let above ← b.lines[b.row - 1]?
    return { b with row := b.row - 1, column := above.length }
  else some b

/-- One character on, to the start of the line below at the end of a line. -/
def right? (b : Buffer) : Option Buffer := do
  let line ← b.lines[b.row]?
  if b.column < line.length then some { b with column := b.column + 1 }
  else if b.row + 1 < b.lines.length then some { b with row := b.row + 1, column := 0 }
  else some b

/-- To the line above, no further right than its end. -/
def up? (b : Buffer) : Option Buffer :=
  if 0 < b.row then do
    let above ← b.lines[b.row - 1]?
    return { b with row := b.row - 1, column := min b.column above.length }
  else some b

/-- To the line below, no further right than its end. -/
def down? (b : Buffer) : Option Buffer :=
  if b.row + 1 < b.lines.length then do
    let below ← b.lines[b.row + 1]?
    return { b with row := b.row + 1, column := min b.column below.length }
  else some b

/-- To the end of the line. -/
def lineEnd? (b : Buffer) : Option Buffer := do
  let line ← b.lines[b.row]?
  return { b with column := line.length }

/-! ## Editing -/

/-- The buffer after an edit, unless the edit asks for text that is not there. -/
def edit? (b : Buffer) : Edit → Option Buffer
  | .char c => b.insert? c
  | .text s => insertAll? s b
  | .newline => b.newline?
  | .indent => insertAll? indentation b
  | .backspace => b.backspace?
  | .delete => b.delete?
  | .left => b.left?
  | .right => b.right?
  | .up => b.up?
  | .down => b.down?
  | .home => some { b with column := 0 }
  | .lineEnd => b.lineEnd?
  | .replace s => some (ofText s)

/-- The buffer after an edit; an edit that asks for text that is not there changes nothing. -/
def edit (b : Buffer) (e : Edit) : Buffer := (b.edit? e).getD b

@[simp] theorem lines_ofText (text : List Char) : (ofText text).lines = splitLines text := rfl

@[simp] theorem row_ofText (text : List Char) : (ofText text).row = 0 := rfl

@[simp] theorem column_ofText (text : List Char) : (ofText text).column = 0 := rfl

/-- A buffer made from a text holds that text. -/
@[simp] theorem text_ofText (text : List Char) : (ofText text).text = text :=
  Text.joinLines_splitLines text

end Buffer
end AnalysisDesk.Editor
