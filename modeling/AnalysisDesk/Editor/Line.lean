import AnalysisDesk.Text.Utf8

/-! # A line of source
A line is a run of characters without a newline. It is edited at byte offsets of its UTF-8 form, as
a text of bytes is: an offset inside a character or past the end is refused. `byteOffset` finds the
offset of a column. -/

namespace AnalysisDesk.Editor

open AnalysisDesk.Text (byteLength)

/-- The characters of a line. -/
abbrev Line := List Char

namespace Line

/-- The byte offsets at which the characters begin, when the first begins at `start`. -/
def offsets (start : Nat) : Line → List Nat
  | [] => []
  | c :: rest => start :: offsets (start + c.utf8Size) rest

/-- The byte offset at which the character of a column begins, or the end of the line. -/
def byteOffset (line : Line) (column : Nat) : Nat :=
  ((offsets 0 line)[column]?).getD (byteLength line)

/-- The parts of a line before and after a byte offset. -/
def splitAt? : Nat → Line → Option (Line × Line)
  | 0, line => some ([], line)
  | _ + 1, [] => none
  | offset + 1, c :: rest =>
    if offset + 1 < c.utf8Size then none
    else (splitAt? (offset + 1 - c.utf8Size) rest).map fun (before, after) => (c :: before, after)

/-- The line with a character put in at a byte offset. -/
def insertAt? (offset : Nat) (c : Char) (line : Line) : Option Line :=
  (splitAt? offset line).map fun (before, after) => before ++ c :: after

/-- The line without the character that begins at a byte offset. -/
def removeAt? (offset : Nat) (line : Line) : Option Line :=
  match splitAt? offset line with
  | some (before, _ :: after) => some (before ++ after)
  | _ => none

@[simp] theorem offsets_nil (start : Nat) : offsets start [] = [] := rfl

@[simp] theorem offsets_cons (start : Nat) (c : Char) (rest : Line) :
    offsets start (c :: rest) = start :: offsets (start + c.utf8Size) rest := rfl

@[simp] theorem splitAt?_zero (line : Line) : splitAt? 0 line = some ([], line) := by
  cases line <;> rfl

end Line
end AnalysisDesk.Editor
