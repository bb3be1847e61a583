import AnalysisDesk.Desk.State
import AnalysisDesk.Proofs.Editor.Refinement

/-! # Well-formed buffers
A buffer is well formed if it has at least one line, no line holds a newline, and the cursor stands
in one of the lines, not behind its end. These are the buffers that can be cut into clean pieces, so
every edit of one succeeds and gives another. The lines of a well-formed buffer are the pieces of
its text, which is why it does not matter whether the lines or the text are asked if it is empty. -/

namespace AnalysisDesk.Editor

open AnalysisDesk.Desk (State)
open AnalysisDesk.Text (splitLines)

namespace Buffer

/-- **A well-formed buffer**: lines without newlines, and a cursor among them. -/
structure WellFormed (b : Buffer) : Prop where
  /-- There is at least one line. -/
  lines_ne_nil : b.lines ≠ []
  /-- A newline is never in a line, only between two of them. -/
  newline_notMem : ∀ line ∈ b.lines, '\n' ∉ line
  /-- The row of the cursor is one of the lines. -/
  row_lt : b.row < b.lines.length
  /-- The column of the cursor is a place in that line. -/
  column_le : b.column ≤ b.lines[b.row].length

end Buffer

/-! ## Cutting at the cursor -/

/-- The buffer of clean pieces is well formed. -/
theorem Focus.Clean.wellFormed {f : Focus} (h : f.Clean) : f.buffer.WellFormed := by
  have hrow : f.above.length < f.lines.length := by
    rw [length_lines]
    omega
  have hline : f.lines[f.above.length] = f.line :=
    Option.some.inj ((List.getElem?_eq_getElem hrow).symm.trans f.getElem?_lines)
  refine ⟨List.ne_nil_of_length_pos (Nat.zero_lt_of_lt hrow), fun line hmem => ?_, hrow, ?_⟩
  · rw [lines_buffer, lines, List.mem_append, List.mem_reverse, List.mem_cons] at hmem
    rcases hmem with habove | rfl | hbelow
    · exact h.above line habove
    · exact h.line
    · exact h.below line hbelow
  · change f.before.length ≤ (f.lines[f.above.length]).length
    rw [hline, length_line]
    exact Nat.le_add_right _ _

namespace Buffer

/-- A well-formed buffer can be cut into clean pieces. -/
theorem WellFormed.exists_focus {b : Buffer} (h : b.WellFormed) :
    ∃ f : Focus, f.Clean ∧ f.buffer = b := by
  obtain ⟨lines, row, column⟩ := b
  obtain ⟨-, hnewline, hrow, hcolumn⟩ := h
  refine ⟨.place (lines.take row).reverse lines[row] column (lines.drop (row + 1)),
    Focus.clean_place column (fun l hl => ?_) (hnewline _ (List.getElem_mem hrow))
      fun l hl => hnewline l (List.mem_of_mem_drop hl), ?_⟩
  · exact hnewline l (List.mem_of_mem_take (List.mem_reverse.mp hl))
  · -- What is above the row, the row and what is below it are all of the lines.
    have hlines : lines.take row ++ lines[row] :: lines.drop (row + 1) = lines := by
      rw [List.getElem_cons_drop, List.take_append_drop]
    rw [Focus.buffer_place, List.reverse_reverse, hlines, List.length_reverse, List.length_take,
      Nat.min_eq_left (Nat.le_of_lt hrow), Nat.min_eq_left hcolumn]

/-! ## Edits -/

/-- A new buffer is well formed. -/
theorem wellFormed_ofText (text : List Char) : (ofText text).WellFormed := by
  rw [← Focus.buffer_ofText]
  exact (Focus.clean_ofText text).wellFormed

/-- **Every edit of a well-formed buffer** succeeds and gives a well-formed one. -/
theorem WellFormed.edit? {b : Buffer} (h : b.WellFormed) (e : Edit) :
    ∃ b', b.edit? e = some b' ∧ b'.WellFormed := by
  obtain ⟨f, clean, rfl⟩ := h.exists_focus
  exact ⟨(f.edit e).buffer, f.edit?_buffer e, (clean.edit e).wellFormed⟩

/-- Edits of a well-formed buffer, one after another, succeed and lead to a well-formed one. -/
theorem WellFormed.foldlM_edit? {b : Buffer} (h : b.WellFormed) (edits : List Edit) :
    ∃ b', edits.foldlM Buffer.edit? b = some b' ∧ edits.foldl edit b = b' ∧ b'.WellFormed := by
  induction edits generalizing b with
  | nil => exact ⟨b, rfl, rfl, h⟩
  | cons e rest ih =>
    obtain ⟨next, hnext, hwell⟩ := h.edit? e
    obtain ⟨last, hlast, hfold, hlastWell⟩ := ih hwell
    have hedit : b.edit e = next := by rw [edit, hnext, Option.getD_some]
    refine ⟨last, ?_, ?_, hlastWell⟩
    · rw [List.foldlM_cons, hnext]
      exact hlast
    · rw [List.foldl_cons, hedit, hfold]

/-- Putting in a text is putting in its characters, each in an edit of its own. -/
theorem edit?_text (b : Buffer) (s : List Char) :
    b.edit? (.text s) = (s.map .char).foldlM Buffer.edit? b := by
  change insertAll? s b = _
  induction s generalizing b with
  | nil => rfl
  | cons c s ih =>
    rw [insertAll?, List.map_cons, List.foldlM_cons]
    exact bind_congr fun next => ih next

/-- **Characters put in one after another** are put in at the cursor as one text. -/
theorem WellFormed.foldl_char {b : Buffer} (h : b.WellFormed) (s : List Char) :
    b.edit? (.text s) = some ((s.map .char).foldl edit b) ∧
      ((s.map .char).foldl edit b).caretText = b.caretText.insert s := by
  obtain ⟨b', run, fold, -⟩ := h.foldlM_edit? (s.map .char)
  have typed : b.edit? (.text s) = some b' := (edit?_text b s).trans run
  rw [fold]
  refine ⟨typed, ?_⟩
  -- The pieces of the buffer know what an edit does to the text with its caret.
  obtain ⟨f, clean, rfl⟩ := h.exists_focus
  have same : b' = (f.edit (.text s)).buffer := Option.some.inj (typed.symm.trans (f.edit?_buffer _))
  rw [same]
  exact Focus.caretText_edit clean (.text s)

/-! ## Lines and text -/

/-- **The lines of a well-formed buffer** are the pieces of its text. -/
theorem WellFormed.splitLines_text {b : Buffer} (h : b.WellFormed) : splitLines b.text = b.lines :=
  Text.splitLines_joinLines h.lines_ne_nil h.newline_notMem

/-- A well-formed buffer has one line, an empty one, if and only if its text is empty. -/
theorem WellFormed.isEmpty_iff {b : Buffer} (h : b.WellFormed) :
    b.isEmpty = true ↔ b.text = [] := by
  rw [isEmpty, decide_eq_true_iff]
  constructor
  · intro hlines
    rw [text, hlines, Text.joinLines_singleton]
  · intro htext
    rw [← h.splitLines_text, htext, Text.splitLines_nil]

/-- There is nothing to submit if and only if the text is empty. -/
theorem submission?_eq_none_iff (s : State) :
    s.submission? = none ↔ s.surface.buffer.text = [] := by
  by_cases h : s.surface.snapshot = []
  · exact iff_of_true (State.submission?_of_eq_nil h) h
  · rw [State.submission?_of_ne_nil h]
    exact iff_of_false (Option.some_ne_none _) h

/-- **What a buffer made from a text is like** after any edits. -/
structure Coherent (b : Buffer) : Prop extends b.WellFormed where
  /-- No edit asks for text that is not there. -/
  edit?_eq_some : ∀ e, ∃ b', b.edit? e = some b'
  /-- The buffers between the characters of a text put in are buffers after edits as well. -/
  edit?_text : ∀ s, b.edit? (.text s) = (s.map .char).foldlM Buffer.edit? b
  /-- The lines are the pieces of the text. -/
  lines_eq : b.lines = splitLines b.text
  /-- A new buffer with the text has the same lines. -/
  lines_ofText : (ofText b.text).lines = b.lines
  /-- There is one line more than newlines in the text. -/
  length_lines : b.lines.length = b.text.count '\n' + 1
  /-- The buffer is empty if and only if its text is. -/
  isEmpty_iff : b.isEmpty = true ↔ b.text = []
  /-- The desk finds nothing to submit if and only if the buffer is empty. -/
  submission?_iff : ∀ s : State, s.surface.buffer = b → (s.submission? = none ↔ b.isEmpty = true)

/-- A well-formed buffer is coherent. -/
theorem WellFormed.coherent {b : Buffer} (h : b.WellFormed) : b.Coherent where
  toWellFormed := h
  edit?_eq_some e := (h.edit? e).imp fun _ found => found.1
  edit?_text := Buffer.edit?_text b
  lines_eq := h.splitLines_text.symm
  lines_ofText := h.splitLines_text
  length_lines := by rw [← Text.length_splitLines, h.splitLines_text]
  isEmpty_iff := h.isEmpty_iff
  submission?_iff s hs := by rw [submission?_eq_none_iff, hs, h.isEmpty_iff]

/-- **A buffer stays coherent.** A buffer made from a text holds that text, and any edits of it
succeed, one after another, and lead to a coherent buffer. -/
theorem coherent_of_edits (text : List Char) (edits : List Edit) :
    (ofText text).text = text ∧
      ∃ b, edits.foldlM Buffer.edit? (ofText text) = some b ∧
        edits.foldl edit (ofText text) = b ∧ b.Coherent := by
  obtain ⟨b, hrun, hfold, hwell⟩ := (wellFormed_ofText text).foldlM_edit? edits
  exact ⟨text_ofText text, b, hrun, hfold, hwell.coherent⟩

end Buffer
end AnalysisDesk.Editor
