import AnalysisDesk.Proofs.Editor.CaretText
import AnalysisDesk.Proofs.Editor.Focus
import AnalysisDesk.Proofs.Text.Lines

/-! # A buffer is a text with a caret
Read as one text with the offset of its cursor, a buffer is a `CaretText`, and its edits are those of
the text. The proof cuts the buffer at its cursor: the pieces of a `Focus`, joined by newlines, are
the two parts of the text. -/

namespace AnalysisDesk.Editor

open AnalysisDesk.Text (joinLines splitLines endedText begunText)

namespace Buffer

/-- The offset of the cursor in the text: the characters of the rows above it, with a newline for
each, and the column. -/
def offset (b : Buffer) : Nat := ((b.lines.take b.row).map (·.length + 1)).sum + b.column

/-- The buffer as one text with a caret. -/
def caretText (b : Buffer) : CaretText := ⟨b.text, b.offset⟩

end Buffer

namespace Focus

/-- No piece holds a newline. -/
structure Clean (f : Focus) : Prop where
  above : ∀ line ∈ f.above, '\n' ∉ line
  before : '\n' ∉ f.before
  after : '\n' ∉ f.after
  below : ∀ line ∈ f.below, '\n' ∉ line

/-- The text before the cursor. -/
def leading (f : Focus) : List Char := endedText f.above.reverse ++ f.before.reverse

/-- The text after the cursor. -/
def trailing (f : Focus) : List Char := f.after ++ begunText f.below

/-- **The text of the pieces** is cut by the caret as the buffer is by the cursor. -/
theorem caretText_buffer (f : Focus) : f.buffer.caretText = .cut f.leading f.trailing := by
  have htext : f.buffer.text = f.leading ++ f.trailing := by
    rw [Buffer.text, lines_buffer, lines, Text.joinLines_around, line, leading, trailing]
    simp only [List.append_assoc]
  -- The rows that the offset counts are the lines above, each with its newline.
  have habove : f.lines.take f.above.length = f.above.reverse := by
    rw [lines, ← List.length_reverse, List.take_left]
  have hoffset : f.buffer.offset = f.leading.length := by
    rw [Buffer.offset, lines_buffer, row_buffer, column_buffer, habove, ← Text.length_endedText,
      leading, List.length_append, @List.length_reverse _ f.before]
  rw [Buffer.caretText, htext, hoffset]
  rfl

/-! ## Clean pieces -/

/-- A new buffer has clean pieces. -/
theorem clean_ofText (text : List Char) : (ofText text).Clean := by
  obtain ⟨first, rest, h⟩ := List.exists_cons_of_ne_nil (Text.splitLines_ne_nil text)
  have hmem : ∀ line ∈ first :: rest, '\n' ∉ line := by
    intro line hline
    rw [← h] at hline
    exact Text.newline_notMem_splitLines hline
  unfold ofText
  rw [h]
  exact {
    above := fun line hline => absurd hline List.not_mem_nil
    before := List.not_mem_nil
    after := hmem first List.mem_cons_self
    below := fun line hline => hmem line (List.mem_cons_of_mem _ hline) }

/-- The line of the cursor holds no newline. -/
theorem Clean.line {f : Focus} (h : f.Clean) : '\n' ∉ f.line := by
  rw [Focus.line, List.mem_append, List.mem_reverse, not_or]
  exact ⟨h.before, h.after⟩

/-- Placing the cursor in a line without a newline. -/
theorem clean_place {above below : List Line} {line : Line} (column : Nat)
    (habove : ∀ l ∈ above, '\n' ∉ l) (hline : '\n' ∉ line) (hbelow : ∀ l ∈ below, '\n' ∉ l) :
    (place above line column below).Clean where
  above := habove
  before := fun h => hline (List.mem_of_mem_take (List.mem_reverse.mp h))
  after := fun h => hline (List.mem_of_mem_drop h)
  below := hbelow

/-- Splitting the line keeps the pieces clean. -/
theorem Clean.newline {f : Focus} (h : f.Clean) : f.newline.Clean where
  above := by
    intro line hline
    rcases List.mem_cons.mp hline with rfl | hline
    · exact fun hmem => h.before (List.mem_reverse.mp hmem)
    · exact h.above line hline
  before := List.not_mem_nil
  after := h.after
  below := h.below

/-- Putting in a character keeps the pieces clean: a newline splits the line. -/
theorem Clean.insert {f : Focus} (h : f.Clean) (c : Char) : (f.insert c).Clean := by
  unfold Focus.insert
  split
  · exact h.newline
  · rename_i hc
    exact { h with before := List.not_mem_cons_of_ne_of_not_mem (Ne.symm hc) h.before }

/-- Putting in characters keeps the pieces clean. -/
theorem Clean.insertAll {f : Focus} (h : f.Clean) (s : List Char) :
    (s.foldl Focus.insert f).Clean := by
  induction s generalizing f with
  | nil => exact h
  | cons c rest ih => exact ih (h.insert c)

/-- Taking out backwards keeps the pieces clean: a line that is joined has no newline. -/
theorem Clean.backspace {f : Focus} (h : f.Clean) : f.backspace.Clean := by
  -- The lines above are kept nearest first, and what is before the cursor in reverse.
  obtain ⟨above, before, after, below⟩ := f
  obtain ⟨habove, hbefore, hafter, hbelow⟩ := h
  cases before with
  | cons c before =>
    exact ⟨habove, fun hmem => hbefore (List.mem_cons_of_mem c hmem), hafter, hbelow⟩
  | nil =>
    cases above with
    | cons target above =>
      obtain ⟨htarget, habove⟩ := List.forall_mem_cons.mp habove
      exact ⟨habove, fun hmem => htarget (List.mem_reverse.mp hmem), hafter, hbelow⟩
    | nil => exact ⟨habove, hbefore, hafter, hbelow⟩

/-- Taking out forwards keeps the pieces clean. -/
theorem Clean.delete {f : Focus} (h : f.Clean) : f.delete.Clean := by
  obtain ⟨above, before, after, below⟩ := f
  obtain ⟨habove, hbefore, hafter, hbelow⟩ := h
  cases after with
  | cons c after =>
    exact ⟨habove, hbefore, fun hmem => hafter (List.mem_cons_of_mem c hmem), hbelow⟩
  | nil =>
    cases below with
    | cons target below =>
      obtain ⟨htarget, hbelow⟩ := List.forall_mem_cons.mp hbelow
      exact ⟨habove, hbefore, htarget, hbelow⟩
    | nil => exact ⟨habove, hbefore, hafter, hbelow⟩

/-- Going back keeps the pieces clean. -/
theorem Clean.left {f : Focus} (h : f.Clean) : f.left.Clean := by
  obtain ⟨above, before, after, below⟩ := f
  obtain ⟨habove, hbefore, hafter, hbelow⟩ := h
  cases before with
  | cons c before =>
    obtain ⟨hc, hbefore⟩ := List.ne_and_not_mem_of_not_mem_cons hbefore
    exact ⟨habove, hbefore, List.not_mem_cons_of_ne_of_not_mem hc hafter, hbelow⟩
  | nil =>
    cases above with
    | cons target above =>
      obtain ⟨htarget, habove⟩ := List.forall_mem_cons.mp habove
      exact ⟨habove, fun hmem => htarget (List.mem_reverse.mp hmem), List.not_mem_nil,
        List.forall_mem_cons.mpr ⟨hafter, hbelow⟩⟩
    | nil => exact ⟨habove, hbefore, hafter, hbelow⟩

/-- Going on keeps the pieces clean. -/
theorem Clean.right {f : Focus} (h : f.Clean) : f.right.Clean := by
  obtain ⟨above, before, after, below⟩ := f
  obtain ⟨habove, hbefore, hafter, hbelow⟩ := h
  cases after with
  | cons c after =>
    obtain ⟨hc, hafter⟩ := List.ne_and_not_mem_of_not_mem_cons hafter
    exact ⟨habove, List.not_mem_cons_of_ne_of_not_mem hc hbefore, hafter, hbelow⟩
  | nil =>
    cases below with
    | cons target below =>
      obtain ⟨htarget, hbelow⟩ := List.forall_mem_cons.mp hbelow
      exact ⟨List.forall_mem_cons.mpr ⟨fun hmem => hbefore (List.mem_reverse.mp hmem), habove⟩,
        List.not_mem_nil, htarget, hbelow⟩
    | nil => exact ⟨habove, hbefore, hafter, hbelow⟩

/-- Going up keeps the pieces clean. -/
theorem Clean.up {f : Focus} (h : f.Clean) : f.up.Clean := by
  have hline := h.line
  obtain ⟨above, before, after, below⟩ := f
  obtain ⟨habove, hbefore, hafter, hbelow⟩ := h
  cases above with
  | cons target above =>
    obtain ⟨htarget, habove⟩ := List.forall_mem_cons.mp habove
    exact clean_place before.length habove htarget (List.forall_mem_cons.mpr ⟨hline, hbelow⟩)
  | nil => exact ⟨habove, hbefore, hafter, hbelow⟩

/-- Going down keeps the pieces clean. -/
theorem Clean.down {f : Focus} (h : f.Clean) : f.down.Clean := by
  have hline := h.line
  obtain ⟨above, before, after, below⟩ := f
  obtain ⟨habove, hbefore, hafter, hbelow⟩ := h
  cases below with
  | cons target below =>
    obtain ⟨htarget, hbelow⟩ := List.forall_mem_cons.mp hbelow
    exact clean_place before.length (List.forall_mem_cons.mpr ⟨hline, habove⟩) htarget hbelow
  | nil => exact ⟨habove, hbefore, hafter, hbelow⟩

/-- **Every edit keeps the pieces clean.** -/
theorem Clean.edit {f : Focus} (h : f.Clean) (e : Edit) : (f.edit e).Clean := by
  cases e with
  | char c => exact h.insert c
  | text s => exact h.insertAll s
  | newline => exact h.newline
  | indent => exact h.insertAll indentation
  | backspace => exact h.backspace
  | delete => exact h.delete
  | left => exact h.left
  | right => exact h.right
  | up => exact h.up
  | down => exact h.down
  | home => exact ⟨h.above, List.not_mem_nil, h.line, h.below⟩
  | lineEnd =>
    exact ⟨h.above, fun hmem => h.line (List.mem_reverse.mp hmem), List.not_mem_nil, h.below⟩
  | replace s => exact clean_ofText s

/-! ## Edits of the pieces are edits of the text -/

/-- Putting in a character inserts it. -/
theorem caretText_insert (f : Focus) (c : Char) :
    (f.insert c).buffer.caretText = f.buffer.caretText.insert [c] := by
  rw [caretText_buffer, caretText_buffer, CaretText.insert_cut]
  unfold insert
  split
  · rename_i hc
    subst hc
    simp [newline, leading, trailing]
  · simp [leading, trailing]

/-- Putting in characters inserts them together. -/
theorem caretText_insertAll (s : List Char) (f : Focus) :
    (s.foldl insert f).buffer.caretText = f.buffer.caretText.insert s := by
  induction s generalizing f with
  | nil => rw [List.foldl_nil, caretText_buffer, CaretText.insert_cut, List.append_nil]
  | cons c rest ih =>
    rw [List.foldl_cons, ih, caretText_insert, caretText_buffer]
    simp only [CaretText.insert_cut, List.append_assoc, List.singleton_append]

/-- Taking out backwards removes the character before the caret, a newline between two lines. -/
theorem caretText_backspace (f : Focus) :
    f.backspace.buffer.caretText = f.buffer.caretText.backspace := by
  obtain ⟨above, before, after, below⟩ := f
  rw [caretText_buffer, caretText_buffer]
  -- At the start of a line the character before the caret is the newline of the line above.
  cases before with
  | cons c before =>
    simp only [leading, List.reverse_cons, ← List.append_assoc, CaretText.backspace_cut]
    rfl
  | nil =>
    cases above with
    | cons target above => simp [leading, trailing, backspace, ← List.append_assoc]
    | nil => rfl

/-- Taking out forwards removes the character at the caret, a newline between two lines. -/
theorem caretText_delete (f : Focus) : f.delete.buffer.caretText = f.buffer.caretText.delete := by
  obtain ⟨above, before, after, below⟩ := f
  rw [caretText_buffer, caretText_buffer]
  -- At the end of a line the character at the caret is the newline of the line below.
  cases after with
  | cons c after => exact (CaretText.delete_cut _ _ c).symm
  | nil =>
    cases below with
    | cons target below => exact (CaretText.delete_cut _ _ '\n').symm
    | nil => exact (CaretText.delete_cut_nil _).symm

/-- Going back is one place back. -/
theorem caretText_left (f : Focus) : f.left.buffer.caretText = f.buffer.caretText.left := by
  obtain ⟨above, before, after, below⟩ := f
  rw [caretText_buffer, caretText_buffer]
  cases before with
  | cons c before =>
    simp only [leading, List.reverse_cons, ← List.append_assoc, CaretText.left_cut]
    rfl
  | nil =>
    cases above with
    | cons target above => simp [leading, trailing, left, ← List.append_assoc]
    | nil => rfl

/-- Going on is one place on. -/
theorem caretText_right (f : Focus) : f.right.buffer.caretText = f.buffer.caretText.right := by
  obtain ⟨above, before, after, below⟩ := f
  rw [caretText_buffer, caretText_buffer]
  cases after with
  | cons c after =>
    refine Eq.trans ?_ (CaretText.right_cut _ _ c).symm
    simp [leading, trailing, right]
  | nil =>
    cases below with
    | cons target below =>
      refine Eq.trans ?_ (CaretText.right_cut _ (target ++ begunText below) '\n').symm
      simp [leading, trailing, right]
    | nil => exact (CaretText.right_cut_nil _).symm

/-- The lines above are ended. -/
theorem ended_endedText (above : List Line) : CaretText.Ended (endedText above) := by
  rcases List.eq_nil_or_concat above with rfl | ⟨rest, last, rfl⟩
  · exact Or.inl rfl
  · refine Or.inr ⟨endedText rest ++ last, ?_⟩
    rw [List.concat_eq_append, Text.endedText_append, Text.endedText_cons, Text.endedText_nil,
      List.append_assoc]

/-- The lines below are begun. -/
theorem begun_begunText (below : List Line) : CaretText.Begun (begunText below) := by
  cases below with
  | nil => exact Or.inl rfl
  | cons first rest => exact Or.inr ⟨first ++ begunText rest, rfl⟩

/-- The characters before the cursor hold no newline, in either order. -/
theorem Clean.before_reverse {f : Focus} (h : f.Clean) : '\n' ∉ f.before.reverse :=
  fun hmem => h.before (List.mem_reverse.mp hmem)

/-- The start of the cursor's line is the start of the line in the text. -/
theorem caretText_home {f : Focus} (h : f.Clean) :
    f.home.buffer.caretText = f.buffer.caretText.home := by
  rw [caretText_buffer, caretText_buffer]
  refine Eq.trans ?_ (CaretText.home_cut f.trailing (ended_endedText _) h.before_reverse).symm
  simp [home, leading, trailing, line]

/-- The end of the cursor's line is the end of the line in the text. -/
theorem caretText_lineEnd {f : Focus} (h : f.Clean) :
    f.lineEnd.buffer.caretText = f.buffer.caretText.lineEnd := by
  rw [caretText_buffer, caretText_buffer]
  refine Eq.trans ?_ (CaretText.lineEnd_cut f.leading h.after (begun_begunText _)).symm
  simp [lineEnd, leading, trailing, line]

/-- Going up is going up in the text. -/
theorem caretText_up {f : Focus} (h : f.Clean) :
    f.up.buffer.caretText = f.buffer.caretText.up := by
  have hbefore := h.before_reverse
  obtain ⟨above, before, after, below⟩ := f
  rw [caretText_buffer, caretText_buffer]
  cases above with
  | cons target above =>
    obtain ⟨htarget, -⟩ := List.forall_mem_cons.mp h.above
    -- The line above is the last one of the text before the caret's line.
    have hleading : (⟨target :: above, before, after, below⟩ : Focus).leading =
        endedText above.reverse ++ (target ++ '\n' :: before.reverse) := by
      simp [leading]
    rw [hleading, CaretText.up_cut _ (ended_endedText _) htarget hbefore]
    simp [up, place, leading, trailing, line]
  | nil =>
    have hleading : (⟨[], before, after, below⟩ : Focus).leading = before.reverse := rfl
    rw [hleading, CaretText.up_cut_first _ hbefore]
    rfl

/-- Going down is going down in the text. -/
theorem caretText_down {f : Focus} (h : f.Clean) :
    f.down.buffer.caretText = f.buffer.caretText.down := by
  have hbefore := h.before_reverse
  obtain ⟨above, before, after, below⟩ := f
  rw [caretText_buffer, caretText_buffer]
  cases below with
  | cons target below =>
    obtain ⟨htarget, -⟩ := List.forall_mem_cons.mp h.below
    refine Eq.trans ?_
      (CaretText.down_cut (ended_endedText _) hbefore h.after htarget (begun_begunText _)).symm
    simp [down, place, leading, trailing, line]
  | nil =>
    have htrailing : (⟨above, before, after, []⟩ : Focus).trailing = after := List.append_nil after
    rw [htrailing, CaretText.down_cut_last _ h.after]
    exact congrArg (CaretText.cut _) htrailing

/-- **An edit of the pieces is the edit of the text.** -/
theorem caretText_edit {f : Focus} (h : f.Clean) (e : Edit) :
    (f.edit e).buffer.caretText = f.buffer.caretText.edit e := by
  cases e with
  | char c => exact caretText_insert f c
  | text s => exact caretText_insertAll s f
  | newline => exact caretText_insert f '\n'
  | indent => exact caretText_insertAll indentation f
  | backspace => exact caretText_backspace f
  | delete => exact caretText_delete f
  | left => exact caretText_left f
  | right => exact caretText_right f
  | up => exact caretText_up h
  | down => exact caretText_down h
  | home => exact caretText_home h
  | lineEnd => exact caretText_lineEnd h
  | replace s =>
    rw [edit, buffer_ofText, Buffer.caretText, Buffer.text_ofText]
    rfl

/-- The caret lies within the text. -/
theorem caret_le (f : Focus) : f.buffer.caretText.caret ≤ f.buffer.caretText.text.length := by
  rw [caretText_buffer, CaretText.cut, List.length_append]
  exact Nat.le_add_right _ _

end Focus

/-! ## Runs of edits -/

namespace Buffer

/-- The total edit of a buffer is the edit of its pieces. -/
theorem edit_buffer (f : Focus) (e : Edit) : f.buffer.edit e = (f.edit e).buffer := by
  rw [edit, Focus.edit?_buffer, Option.getD_some]

/-- Edits of a buffer, one after another, are edits of its pieces. -/
theorem foldlM_edit?_buffer (f : Focus) (edits : List Edit) :
    edits.foldlM edit? f.buffer = some (edits.foldl Focus.edit f).buffer := by
  induction edits generalizing f with
  | nil => rfl
  | cons e rest ih =>
    rw [List.foldlM_cons, Focus.edit?_buffer]
    exact ih (f.edit e)

/-- The total edits of a buffer, one after another, are those of its pieces as well. -/
theorem foldl_edit_buffer (f : Focus) (edits : List Edit) :
    edits.foldl edit f.buffer = (edits.foldl Focus.edit f).buffer := by
  induction edits generalizing f with
  | nil => rfl
  | cons e rest ih => rw [List.foldl_cons, edit_buffer, ih, List.foldl_cons]

/-- Clean pieces stay clean over a run of edits. -/
theorem clean_foldl_edit {f : Focus} (h : f.Clean) (edits : List Edit) :
    (edits.foldl Focus.edit f).Clean := by
  induction edits generalizing f with
  | nil => exact h
  | cons e rest ih => exact ih (h.edit e)

/-- A run of edits of clean pieces is the run of edits of their text. -/
theorem caretText_foldl_edit {f : Focus} (h : f.Clean) (edits : List Edit) :
    (edits.foldl Focus.edit f).buffer.caretText =
      edits.foldl CaretText.edit f.buffer.caretText := by
  induction edits generalizing f with
  | nil => rfl
  | cons e rest ih => rw [List.foldl_cons, ih (h.edit e), Focus.caretText_edit h, List.foldl_cons]

/-- **A buffer refines a text with a caret.** Any edits of a buffer made from a text succeed and lead
to the text with a caret that the same edits lead to from the start of the text; the caret stays
within the text, and any further edit succeeds and acts on the one as on the other. -/
theorem edits_refine_caretText (text : List Char) (edits : List Edit) :
    ∃ b, edits.foldlM edit? (ofText text) = some b ∧ edits.foldl edit (ofText text) = b ∧
      b.caretText = edits.foldl CaretText.edit ⟨text, 0⟩ ∧ b.offset ≤ b.text.length ∧
      ∀ e, ∃ b', b.edit? e = some b' ∧ b'.caretText = b.caretText.edit e := by
  -- The pieces of the new buffer are followed instead of the buffer.
  have hstart : (Focus.ofText text).buffer.caretText = ⟨text, 0⟩ := by
    rw [Focus.buffer_ofText, caretText, text_ofText]
    rfl
  have hclean := clean_foldl_edit (Focus.clean_ofText text) edits
  rw [← Focus.buffer_ofText]
  refine ⟨(edits.foldl Focus.edit (Focus.ofText text)).buffer, foldlM_edit?_buffer _ edits,
    foldl_edit_buffer _ edits, ?_, Focus.caret_le _, fun e => ?_⟩
  · rw [caretText_foldl_edit (Focus.clean_ofText text), hstart]
  · exact ⟨_, Focus.edit?_buffer _ e, Focus.caretText_edit hclean e⟩

/-- Two lines joined at their break, split anew behind another character, and the move up. -/
example : ([.lineEnd, .delete, .text ['x', '\n'], .up, .right].foldl edit
    (ofText ['a', 'b', '\n', 'c'])).caretText = ⟨['a', 'b', 'x', '\n', 'c'], 1⟩ := by decide

end Buffer
end AnalysisDesk.Editor
