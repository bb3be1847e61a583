import AnalysisDesk.Text.Lines
import Mathlib.Algebra.Ring.Nat

/-! # Lines joined around one of them
The text of some lines, cut at one of them: the lines above, each ended by a newline, then the line,
then the lines below, each begun by one. The pieces of a text hold no newline, and lines that hold
none are the pieces of their text, so that splitting and joining are inverse to each other. -/

namespace AnalysisDesk.Text

/-- Lines, each with a newline after it. -/
def endedText (lines : List (List Char)) : List Char := lines.flatMap (· ++ ['\n'])

/-- Lines, each with a newline before it. -/
def begunText (lines : List (List Char)) : List Char := lines.flatMap ('\n' :: ·)

@[simp] theorem endedText_nil : endedText [] = [] := rfl

@[simp] theorem begunText_nil : begunText [] = [] := rfl

@[simp] theorem endedText_cons (line : List Char) (lines : List (List Char)) :
    endedText (line :: lines) = line ++ '\n' :: endedText lines := by
  rw [endedText, List.flatMap_cons, List.append_assoc]
  rfl

@[simp] theorem begunText_cons (line : List Char) (lines : List (List Char)) :
    begunText (line :: lines) = '\n' :: (line ++ begunText lines) := rfl

@[simp] theorem endedText_append (lines more : List (List Char)) :
    endedText (lines ++ more) = endedText lines ++ endedText more :=
  List.flatMap_append

/-- The length of lines with a newline after each. -/
theorem length_endedText (lines : List (List Char)) :
    (endedText lines).length = (lines.map (·.length + 1)).sum := by
  induction lines with
  | nil => rfl
  | cons line lines ih =>
    rw [endedText_cons, List.length_append, List.length_cons, ih, List.map_cons, List.sum_cons]
    omega

/-- A line joined with those below it. -/
theorem joinLines_cons (line : List Char) (below : List (List Char)) :
    joinLines (line :: below) = line ++ begunText below := by
  induction below generalizing line with
  | nil => rw [joinLines_singleton, begunText_nil, List.append_nil]
  | cons next below ih => rw [joinLines_cons_cons, ih, begunText_cons]

/-- **Lines joined around one of them**: what is above it, the line, and what is below it. -/
theorem joinLines_around (above below : List (List Char)) (line : List Char) :
    joinLines (above ++ line :: below) = endedText above ++ (line ++ begunText below) := by
  induction above with
  | nil => exact joinLines_cons line below
  | cons first above ih =>
    -- A further line follows, so that the first one is joined by a newline.
    obtain ⟨next, rest, h⟩ : ∃ next rest, above ++ line :: below = next :: rest :=
      List.exists_cons_of_ne_nil (by simp)
    rw [List.cons_append, h, joinLines_cons_cons, ← h, ih, endedText_cons, List.append_assoc]
    rfl

/-- The pieces of a text hold no newline. -/
theorem newline_notMem_splitLines {text line : List Char} (h : line ∈ splitLines text) :
    '\n' ∉ line := by
  induction text generalizing line with
  | nil =>
    rw [splitLines_nil, List.mem_singleton] at h
    rw [h]
    exact List.not_mem_nil
  | cons c rest ih =>
    obtain ⟨first, lines, hsplit⟩ := List.exists_cons_of_ne_nil (splitLines_ne_nil rest)
    by_cases hc : c = '\n'
    · rw [hc, splitLines_newline, List.mem_cons] at h
      rcases h with rfl | h
      · exact List.not_mem_nil
      · exact ih h
    · -- The character joins the first piece of the rest.
      rw [splitLines, if_neg hc, hsplit] at h
      rcases List.mem_cons.mp h with rfl | h
      · have hfirst : '\n' ∉ first := ih (by rw [hsplit]; exact List.mem_cons_self)
        rw [List.mem_cons, not_or]
        exact ⟨fun heq => hc heq.symm, hfirst⟩
      · exact ih (by rw [hsplit]; exact List.mem_cons_of_mem _ h)

/-! ## Splitting what was joined -/

/-- A character that is no newline goes in front of the first piece. -/
theorem splitLines_cons_of_ne {c : Char} (hc : c ≠ '\n') {text line : List Char}
    {lines : List (List Char)} (h : splitLines text = line :: lines) :
    splitLines (c :: text) = (c :: line) :: lines := by
  rw [splitLines, if_neg hc, h]

/-- A line without a newline goes in front of the first piece of what follows it. -/
theorem splitLines_append {line : List Char} (hline : '\n' ∉ line) {text first : List Char}
    {lines : List (List Char)} (h : splitLines text = first :: lines) :
    splitLines (line ++ text) = (line ++ first) :: lines := by
  induction line with
  | nil => exact h
  | cons c line ih =>
    obtain ⟨hc, hline⟩ := List.ne_and_not_mem_of_not_mem_cons hline
    exact splitLines_cons_of_ne hc.symm (ih hline)

/-- **Splitting undoes joining**: a line and those below it, none with a newline in it, are the
pieces of their text. -/
theorem splitLines_append_begunText {line : List Char} {below : List (List Char)}
    (hline : '\n' ∉ line) (hbelow : ∀ l ∈ below, '\n' ∉ l) :
    splitLines (line ++ begunText below) = line :: below := by
  induction below generalizing line with
  | nil => simpa using splitLines_append hline splitLines_nil
  | cons next below ih =>
    obtain ⟨hnext, hbelow⟩ := List.forall_mem_cons.mp hbelow
    -- The newline before the next line ends the first piece, which nothing is added to.
    have h : splitLines (begunText (next :: below)) = [] :: next :: below := by
      rw [begunText_cons, splitLines_newline, ih hnext hbelow]
    rw [splitLines_append hline h, List.append_nil]

/-- Lines without a newline, at least one, are the pieces of their text. -/
theorem splitLines_joinLines {lines : List (List Char)} (hne : lines ≠ [])
    (h : ∀ line ∈ lines, '\n' ∉ line) : splitLines (joinLines lines) = lines := by
  obtain ⟨line, below, rfl⟩ := List.exists_cons_of_ne_nil hne
  obtain ⟨hline, hbelow⟩ := List.forall_mem_cons.mp h
  rw [joinLines_cons, splitLines_append_begunText hline hbelow]

/-- A text has one piece more than newlines. -/
theorem length_splitLines (text : List Char) :
    (splitLines text).length = text.count '\n' + 1 := by
  induction text with
  | nil => rfl
  | cons c text ih =>
    by_cases hc : c = '\n'
    · rw [hc, splitLines_newline, List.length_cons, ih, List.count_cons_self]
    · obtain ⟨line, lines, h⟩ := List.exists_cons_of_ne_nil (splitLines_ne_nil text)
      rw [h] at ih
      rw [splitLines_cons_of_ne hc h, List.count_cons_of_ne hc, ← ih, List.length_cons,
        List.length_cons]

/-- A text without a newline is its only piece. -/
theorem splitLines_of_notMem {line : List Char} (h : '\n' ∉ line) : splitLines line = [line] := by
  have alone := splitLines_append h splitLines_nil
  rwa [List.append_nil] at alone

/-! ## Lines on display -/

/-- A last line, behind a newline, is the last piece. -/
theorem splitLines_append_newline (text : List Char) {line : List Char} (h : '\n' ∉ line) :
    splitLines (text ++ '\n' :: line) = splitLines text ++ [line] := by
  induction text with
  | nil =>
    rw [List.nil_append, splitLines_newline, splitLines_of_notMem h, splitLines_nil]
    rfl
  | cons c text ih =>
    by_cases hc : c = '\n'
    · rw [hc, List.cons_append, splitLines_newline, splitLines_newline, ih, List.cons_append]
    · obtain ⟨first, lines, hsplit⟩ := List.exists_cons_of_ne_nil (splitLines_ne_nil text)
      rw [hsplit, List.cons_append] at ih
      rw [List.cons_append, splitLines_cons_of_ne hc ih, splitLines_cons_of_ne hc hsplit,
        List.cons_append]

/-- A last piece that is not empty is displayed as it is, behind the lines that newlines end. -/
theorem endedLines_concat (lines : List (List Char)) {last : List Char} (h : last ≠ []) :
    endedLines (lines ++ [last]) = lines.map dropReturn ++ [last] := by
  induction lines with
  | nil =>
    have filled : last.isEmpty = false := List.isEmpty_eq_false_iff.mpr h
    rw [List.nil_append, endedLines, filled]
    rfl
  | cons line lines ih =>
    -- The last piece, or one before it, follows the first line.
    obtain ⟨next, rest, hnext⟩ := List.exists_cons_of_ne_nil (List.concat_ne_nil last lines)
    rw [List.cons_append, hnext, endedLines, ← hnext, ih, List.map_cons, List.cons_append]

/-- **The lines on display of a text whose last line is not empty.** -/
theorem displayedLines_append_newline (text : List Char) {line : List Char} (filled : line ≠ [])
    (h : '\n' ∉ line) :
    displayedLines (text ++ '\n' :: line) = (splitLines text).map dropReturn ++ [line] := by
  rw [displayedLines, splitLines_append_newline text h, endedLines_concat _ filled]

/-- A text that is not empty has a line on display. -/
theorem displayedLines_ne_nil {text : List Char} (filled : text ≠ []) :
    displayedLines text ≠ [] := by
  have joined := joinLines_splitLines text
  unfold displayedLines
  match h : splitLines text with
  | [] => exact absurd h (splitLines_ne_nil text)
  | [line] =>
    -- The only piece is the text itself.
    rw [h, joinLines_singleton] at joined
    rw [endedLines, joined, List.isEmpty_eq_false_iff.mpr filled]
    exact List.cons_ne_nil _ _
  | line :: next :: lines => exact List.cons_ne_nil _ _

/-- A line without a return is displayed as it is. -/
theorem dropReturn_of_notMem {line : List Char} (h : '\r' ∉ line) : dropReturn line = line := by
  unfold dropReturn
  split
  · rename_i last
    exact absurd (List.mem_of_getLast? last) h
  · rfl

/-- A character of a piece is one of the text. -/
theorem mem_of_mem_splitLines {text line : List Char} (piece : line ∈ splitLines text) {c : Char}
    (member : c ∈ line) : c ∈ text := by
  obtain ⟨above, below, split⟩ := List.append_of_mem piece
  rw [← joinLines_splitLines text, split, joinLines_around]
  exact List.mem_append_right _ (List.mem_append_left _ member)

/-- The last piece of a text is not empty if a newline does not end the text. -/
theorem exists_splitLines_concat (front : List Char) {last : Char} (visible : last ≠ '\n') :
    ∃ above line, splitLines (front ++ [last]) = above ++ [line] ∧ line ≠ [] := by
  rcases List.eq_nil_or_concat (splitLines (front ++ [last])) with none | ⟨above, line, split⟩
  · exact absurd none (splitLines_ne_nil _)
  rw [List.concat_eq_append] at split
  refine ⟨above, line, split, ?_⟩
  rintro rfl
  -- With an empty last piece, the text is lines with a newline after each.
  have ended : front ++ [last] = endedText above := by
    rw [← joinLines_splitLines (front ++ [last]), split, joinLines_around, begunText_nil,
      List.append_nil, List.append_nil]
  rcases List.eq_nil_or_concat above with rfl | ⟨above, line, rfl⟩
  · exact List.append_ne_nil_of_right_ne_nil _ (List.cons_ne_nil _ _) ended
  · rw [List.concat_eq_append, endedText_append, endedText_cons, endedText_nil, ← List.append_assoc] at ended
    exact visible (List.append_singleton_inj.mp ended).2

/-- **A text without returns**, and with something behind its last newline, is displayed in its
pieces. -/
theorem displayedLines_eq_splitLines {front : List Char} {last : Char} (visible : last ≠ '\n')
    (unreturned : '\r' ∉ front ++ [last]) :
    displayedLines (front ++ [last]) = splitLines (front ++ [last]) := by
  obtain ⟨above, line, split, filled⟩ := exists_splitLines_concat front visible
  have same : above.map dropReturn = above.map id := by
    refine List.map_congr_left fun line' member => dropReturn_of_notMem fun return_ => ?_
    refine unreturned (mem_of_mem_splitLines ?_ return_)
    rw [split]
    exact List.mem_append_left _ member
  rw [displayedLines, split, endedLines_concat above filled, same, List.map_id]

end AnalysisDesk.Text
