import AnalysisDesk.Text.Lines
import AnalysisDesk.Text.Utf8

/-! # Places in a text
A place counts the characters before it. To a reader a place is a line and a column, and a stretch
of text is shown as an excerpt: its first line, underlined from the place on. -/

namespace AnalysisDesk.Toml

open AnalysisDesk.Text (byteLength splitLines)

/-- A stretch of text, from one place up to another. -/
structure Span where
  /-- The place it begins at. -/
  first : Nat
  /-- The place it ends at. -/
  stop : Nat
  deriving DecidableEq, Repr

/-- The stretch of one character. -/
def Span.single (place : Nat) : Span := ⟨place, place + 1⟩

/-- The characters of a stretch of a text. -/
def Span.of (span : Span) (text : List Char) : List Char :=
  (text.drop span.first).take (span.stop - span.first)

/-- A line and a column, both counted from zero. -/
structure Position where
  /-- The lines before. -/
  line : Nat
  /-- The columns before. -/
  column : Nat
  deriving DecidableEq, Repr

/-- The characters after the last newline. -/
def lastLine (text : List Char) : List Char :=
  (text.reverse.takeWhile (· != '\n')).reverse

/-- The position of a place. Columns count characters, but bytes where the character at the place
takes several; the end of a text is one column behind its last character. -/
def Position.of (text : List Char) (place : Nat) : Position :=
  match text.drop place with
  | c :: _ =>
    let before := text.take place
    let line := lastLine before
    ⟨before.count '\n', if c.utf8Size = 1 then line.length else byteLength line⟩
  | [] =>
    if text.isEmpty then ⟨0, 0⟩
    else
      let before := text.dropLast
      ⟨before.count '\n', (lastLine before).length + 1⟩

/-- The words for a position. -/
def Position.words (position : Position) : String :=
  "line " ++ toString (position.line + 1) ++ ", column " ++ toString (position.column + 1)

/-- How many carets underline a stretch: its bytes, but no more than the line has left, and at least
one. -/
def caretCount (text line : List Char) (span : Span) (column : Nat) : Nat :=
  max 1 (min (byteLength (span.of text)) (byteLength line - column))

/-- The line that a stretch begins on, numbered, and the stretch underlined below it. -/
def excerpt (text : List Char) (span : Span) : String :=
  let position := Position.of text span.first
  let line := (splitLines text)[position.line]?.getD []
  let number := toString (position.line + 1)
  let margin := List.replicate (number.length + 1) ' '
  let carets := List.replicate (caretCount text line span position.column) '^'
  String.ofList margin ++ "|\n" ++ number ++ " | " ++ String.ofList line ++ "\n" ++
    String.ofList (margin ++ '|' :: List.replicate (position.column + 1) ' ' ++ carets) ++ "\n"

/-- The position of the beginning of a text. -/
@[simp] theorem Position.of_zero (text : List Char) :
    Position.of text 0 = ⟨0, 0⟩ := by
  cases text with
  | nil => rfl
  | cons c rest => simp [Position.of, lastLine]

end AnalysisDesk.Toml
