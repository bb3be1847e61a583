/-! # Lines of a text
Two ways to cut a text into lines. `splitLines` separates at every newline, so that `joinLines`
gives the text back; `displayedLines` ends a line at every newline, as a screen does. -/

namespace AnalysisDesk.Text

/-- The pieces between the newlines of a text, one more than there are newlines. -/
def splitLines : List Char → List (List Char)
  | [] => [[]]
  | c :: rest =>
    if c = '\n' then [] :: splitLines rest
    else match splitLines rest with
      | [] => [[c]]
      | line :: lines => (c :: line) :: lines

/-- The lines with one newline between each two neighbours. -/
def joinLines : List (List Char) → List Char
  | [] => []
  | [line] => line
  | line :: next :: lines => line ++ '\n' :: joinLines (next :: lines)

@[simp] theorem splitLines_nil : splitLines [] = [[]] := rfl

@[simp] theorem splitLines_newline (rest : List Char) :
    splitLines ('\n' :: rest) = [] :: splitLines rest := by
  simp [splitLines]

@[simp] theorem joinLines_nil : joinLines [] = [] := rfl

@[simp] theorem joinLines_singleton (line : List Char) : joinLines [line] = line := rfl

/-- Joining a line to at least one more puts a newline between them. -/
theorem joinLines_cons_cons (line next : List Char) (lines : List (List Char)) :
    joinLines (line :: next :: lines) = line ++ '\n' :: joinLines (next :: lines) := rfl

/-- A text has at least one line. -/
theorem splitLines_ne_nil (text : List Char) : splitLines text ≠ [] := by
  induction text with
  | nil => simp
  | cons c rest ih =>
    unfold splitLines
    split
    · simp
    · split <;> simp

/-- A line with a return at its end taken off. -/
def dropReturn (line : List Char) : List Char :=
  match line.getLast? with
  | some '\r' => line.dropLast
  | _ => line

/-- Lines ended by newlines: the last piece is one only if it is not empty, and a return before
the newline belongs to the line's end. -/
def endedLines : List (List Char) → List (List Char)
  | [] => []
  | [last] => if last.isEmpty then [] else [last]
  | line :: next :: lines => dropReturn line :: endedLines (next :: lines)

/-- The lines a screen shows for a text. -/
def displayedLines (text : List Char) : List (List Char) := endedLines (splitLines text)

@[simp] theorem displayedLines_nil : displayedLines [] = [] := rfl

/-- Joining the pieces of a text gives the text. -/
theorem joinLines_splitLines (text : List Char) : joinLines (splitLines text) = text := by
  induction text with
  | nil => rfl
  | cons c rest ih =>
    unfold splitLines
    obtain ⟨line, lines, h⟩ := List.exists_cons_of_ne_nil (splitLines_ne_nil rest)
    rw [h] at ih ⊢
    split
    · rename_i hc
      rw [joinLines_cons_cons, ih, hc]; rfl
    · cases lines with
      | nil => simpa using ih
      | cons next lines =>
        rw [joinLines_cons_cons] at ih ⊢
        simp [← ih]

end AnalysisDesk.Text
