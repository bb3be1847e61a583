import AnalysisDesk.Editor.Buffer

/-! # A text with a caret
The plainest editor there is: one sequence of characters and a caret, a place between two of them.
Edits insert and remove characters at the caret, moves change it, and lines are only the stretches
between newlines. For each edit there is a lemma that says what it does to a text that the caret cuts
in two. -/

namespace AnalysisDesk.Editor

/-- A text and a place in it, counted in characters from the start. -/
structure CaretText where
  /-- The characters. -/
  text : List Char
  /-- How many characters are before the caret. -/
  caret : Nat
  deriving DecidableEq, Repr

namespace CaretText

/-! ## Lines of a text -/

/-- The place just after the newline that precedes a place, or the start of the text. -/
def lineStart (text : List Char) (place : Nat) : Nat :=
  place - ((text.take place).reverse.takeWhile (· ≠ '\n')).length

/-- The place just before the newline that follows a place, or the end of the text. -/
def lineStop (text : List Char) (place : Nat) : Nat :=
  place + ((text.drop place).takeWhile (· ≠ '\n')).length

/-- A place of the line that begins at `start` and stops at `stop`: at a column, or at the end of the
line if it has fewer. -/
def placeIn (start stop column : Nat) : Nat := start + min column (stop - start)

/-- The column of the caret: how far it is from the start of its line. -/
def column (t : CaretText) : Nat := t.caret - lineStart t.text t.caret

/-! ## Edits -/

/-- Insert characters at the caret, which advances by their number. -/
def insert (t : CaretText) (s : List Char) : CaretText :=
  ⟨t.text.take t.caret ++ s ++ t.text.drop t.caret, t.caret + s.length⟩

/-- Remove the character before the caret, if there is one. -/
def backspace (t : CaretText) : CaretText :=
  if t.caret = 0 then t else ⟨t.text.eraseIdx (t.caret - 1), t.caret - 1⟩

/-- Remove the character at the caret, if there is one. -/
def delete (t : CaretText) : CaretText :=
  if t.caret = t.text.length then t else { t with text := t.text.eraseIdx t.caret }

/-- One place back, unless the caret is at the start. -/
def left (t : CaretText) : CaretText := { t with caret := t.caret - 1 }

/-- One place on, unless the caret is at the end. -/
def right (t : CaretText) : CaretText := { t with caret := min (t.caret + 1) t.text.length }

/-- To the start of the line. -/
def home (t : CaretText) : CaretText := { t with caret := lineStart t.text t.caret }

/-- To the end of the line. -/
def lineEnd (t : CaretText) : CaretText := { t with caret := lineStop t.text t.caret }

/-- To the same column of the previous line, if there is one. -/
def up (t : CaretText) : CaretText :=
  let start := lineStart t.text t.caret
  if start = 0 then t
  else { t with caret := placeIn (lineStart t.text (start - 1)) (start - 1) t.column }

/-- To the same column of the next line, if there is one. -/
def down (t : CaretText) : CaretText :=
  let stop := lineStop t.text t.caret
  if stop = t.text.length then t
  else { t with caret := placeIn (stop + 1) (lineStop t.text (stop + 1)) t.column }

/-- The text after an edit. -/
def edit (t : CaretText) : Edit → CaretText
  | .char c => t.insert [c]
  | .text s => t.insert s
  | .newline => t.insert ['\n']
  | .indent => t.insert indentation
  | .backspace => t.backspace
  | .delete => t.delete
  | .left => t.left
  | .right => t.right
  | .up => t.up
  | .down => t.down
  | .home => t.home
  | .lineEnd => t.lineEnd
  | .replace s => ⟨s, 0⟩

/-! ## A text cut by its caret -/

/-- The text of two parts with the caret between them. -/
def cut (before after : List Char) : CaretText := ⟨before ++ after, before.length⟩

@[simp] theorem insert_cut (before after s : List Char) :
    (cut before after).insert s = cut (before ++ s) after := by
  simp [insert, cut]

@[simp] theorem backspace_cut (before after : List Char) (c : Char) :
    (cut (before ++ [c]) after).backspace = cut before after := by
  simp [backspace, cut, List.eraseIdx_append_of_length_le]

@[simp] theorem backspace_cut_nil (after : List Char) :
    (cut [] after).backspace = cut [] after := rfl

@[simp] theorem delete_cut (before after : List Char) (c : Char) :
    (cut before (c :: after)).delete = cut before after := by
  simp [delete, cut, List.eraseIdx_append_of_length_le]

@[simp] theorem delete_cut_nil (before : List Char) :
    (cut before []).delete = cut before [] := by
  simp [delete, cut]

@[simp] theorem left_cut (before after : List Char) (c : Char) :
    (cut (before ++ [c]) after).left = cut before (c :: after) := by
  simp [left, cut]

@[simp] theorem left_cut_nil (after : List Char) : (cut [] after).left = cut [] after := rfl

@[simp] theorem right_cut (before after : List Char) (c : Char) :
    (cut before (c :: after)).right = cut (before ++ [c]) after := by
  simp [right, cut]

@[simp] theorem right_cut_nil (before : List Char) : (cut before []).right = cut before [] := by
  simp [right, cut]

/-! ## Lines around a cut -/

/-- A text after which a line begins: it is empty or ends in a newline. -/
def Ended (text : List Char) : Prop := text = [] ∨ ∃ rest, text = rest ++ ['\n']

/-- A text before which a line stops: it is empty or begins with a newline. -/
def Begun (text : List Char) : Prop := text = [] ∨ ∃ rest, text = '\n' :: rest

/-- The start of a line seen from a place in it. -/
theorem lineStart_append {above line : List Char} (below : List Char) (habove : Ended above)
    (hline : '\n' ∉ line) :
    lineStart (above ++ (line ++ below)) (above.length + line.length) = above.length := by
  have htake : (above ++ (line ++ below)).take (above.length + line.length) = above ++ line := by
    rw [← List.append_assoc, ← List.length_append, List.take_left]
  -- Looking back from the place, the line is passed over whole and nothing of what is above.
  have hall : ∀ c ∈ line.reverse, decide (c ≠ '\n') = true := by
    intro c hc
    rw [decide_eq_true_iff]
    rintro rfl
    exact hline (List.mem_reverse.mp hc)
  have hrest : above.reverse.takeWhile (· ≠ '\n') = [] := by
    rcases habove with rfl | ⟨rest, rfl⟩
    · rfl
    · rw [List.reverse_append]; rfl
  rw [lineStart, htake, List.reverse_append, List.takeWhile_append_of_pos hall, hrest,
    List.append_nil, List.length_reverse, Nat.add_sub_cancel]

/-- The end of a line seen from a place in it. -/
theorem lineStop_append (above : List Char) {line below : List Char} (hline : '\n' ∉ line)
    (hbelow : Begun below) :
    lineStop (above ++ (line ++ below)) above.length = above.length + line.length := by
  have hall : ∀ c ∈ line, decide (c ≠ '\n') = true := by
    intro c hc
    rw [decide_eq_true_iff]
    rintro rfl
    exact hline hc
  have hrest : below.takeWhile (· ≠ '\n') = [] := by
    rcases hbelow with rfl | ⟨rest, rfl⟩ <;> rfl
  rw [lineStop, List.drop_left, List.takeWhile_append_of_pos hall, hrest, List.append_nil]

/-- The line of the caret begins after what is above it. -/
theorem lineStart_cut {above before : List Char} (after : List Char) (habove : Ended above)
    (hbefore : '\n' ∉ before) :
    lineStart (cut (above ++ before) after).text (cut (above ++ before) after).caret =
      above.length := by
  rw [cut, List.length_append, List.append_assoc]
  exact lineStart_append after habove hbefore

/-- The line of the caret stops before what is below it. -/
theorem lineStop_cut (before : List Char) {after below : List Char} (hafter : '\n' ∉ after)
    (hbelow : Begun below) :
    lineStop (cut before (after ++ below)).text (cut before (after ++ below)).caret =
      before.length + after.length :=
  lineStop_append before hafter hbelow

/-- The column of the caret is the number of characters before it in its line. -/
theorem column_cut {above before : List Char} (after : List Char) (habove : Ended above)
    (hbefore : '\n' ∉ before) : (cut (above ++ before) after).column = before.length := by
  rw [column, lineStart_cut after habove hbefore, cut, List.length_append, Nat.add_sub_cancel_left]

/-- The start of the line is before what precedes the caret in it. -/
theorem home_cut {above before : List Char} (after : List Char) (habove : Ended above)
    (hbefore : '\n' ∉ before) :
    (cut (above ++ before) after).home = cut above (before ++ after) := by
  rw [home, lineStart_cut after habove hbefore, cut, cut, List.append_assoc]

/-- The end of the line is behind what follows the caret in it. -/
theorem lineEnd_cut (before : List Char) {after below : List Char} (hafter : '\n' ∉ after)
    (hbelow : Begun below) :
    (cut before (after ++ below)).lineEnd = cut (before ++ after) below := by
  rw [lineEnd, lineStop_cut before hafter hbelow, cut, cut, List.append_assoc, List.length_append]

/-- A caret in the first line stays. -/
theorem up_cut_first {before : List Char} (after : List Char) (hbefore : '\n' ∉ before) :
    (cut before after).up = cut before after := by
  have hstart := lineStart_cut after (Or.inl rfl : Ended []) hbefore
  rw [List.nil_append, List.length_nil] at hstart
  unfold up
  rw [hstart]
  rfl

/-- The two parts of a line that is cut at a column, and what follows it. -/
theorem take_append_drop_append (line rest : List Char) (column : Nat) :
    line.take column ++ (line.drop column ++ rest) = line ++ rest := by
  rw [← List.append_assoc, List.take_append_drop]

/-- A caret in a line that follows another goes up into that one. -/
theorem up_cut {above line before : List Char} (after : List Char) (habove : Ended above)
    (hline : '\n' ∉ line) (hbefore : '\n' ∉ before) :
    (cut (above ++ (line ++ '\n' :: before)) after).up =
      cut (above ++ line.take before.length)
        (line.drop before.length ++ '\n' :: (before ++ after)) := by
  have hsplit : above ++ (line ++ '\n' :: before) = (above ++ (line ++ ['\n'])) ++ before := by simp
  have hended : Ended (above ++ (line ++ ['\n'])) := Or.inr ⟨above ++ line, by simp⟩
  have hstart := lineStart_cut after hended hbefore
  have hcolumn := column_cut after hended hbefore
  rw [← hsplit] at hstart hcolumn
  -- The newline that ends the line above is the last character before this line.
  have hlength : (above ++ (line ++ ['\n'])).length = above.length + line.length + 1 := by
    simp [Nat.add_assoc]
  have hprevious : lineStart (cut (above ++ (line ++ '\n' :: before)) after).text
      (above.length + line.length) = above.length := by
    have h := lineStart_append ('\n' :: (before ++ after)) habove hline
    simpa [cut] using h
  unfold up
  rw [hstart, hlength, if_neg (Nat.succ_ne_zero _), Nat.add_sub_cancel, hprevious, hcolumn]
  simp only [cut, placeIn, Nat.add_sub_cancel_left, List.length_append, List.length_take, mk.injEq]
  rw [List.append_assoc, List.append_assoc, List.append_assoc, take_append_drop_append]
  exact ⟨rfl, trivial⟩

/-- A caret in the last line stays. -/
theorem down_cut_last (before : List Char) {after : List Char} (hafter : '\n' ∉ after) :
    (cut before after).down = cut before after := by
  have hstop := lineStop_cut before hafter (Or.inl rfl : Begun [])
  rw [List.append_nil] at hstop
  unfold down
  rw [hstop, if_pos (by simp [cut])]

/-- A caret in a line that another follows goes down into that one. -/
theorem down_cut {above before after line below : List Char} (habove : Ended above)
    (hbefore : '\n' ∉ before) (hafter : '\n' ∉ after) (hline : '\n' ∉ line) (hbelow : Begun below) :
    (cut (above ++ before) (after ++ '\n' :: (line ++ below))).down =
      cut (above ++ (before ++ (after ++ '\n' :: line.take before.length)))
        (line.drop before.length ++ below) := by
  have hbegun : Begun ('\n' :: (line ++ below)) := Or.inr ⟨line ++ below, rfl⟩
  have hstop := lineStop_cut (above ++ before) hafter hbegun
  have hcolumn := column_cut (after ++ '\n' :: (line ++ below)) habove hbefore
  -- The next line begins one place behind the end of this one.
  have hnext : lineStop (cut (above ++ before) (after ++ '\n' :: (line ++ below))).text
      ((above ++ before).length + after.length + 1) =
        (above ++ before).length + after.length + 1 + line.length := by
    have h := lineStop_append (above ++ (before ++ (after ++ ['\n']))) hline hbelow
    simpa [cut, Nat.add_assoc] using h
  unfold down
  rw [hstop, if_neg (by simp [cut]; omega), hnext, hcolumn]
  simp only [cut, placeIn, Nat.add_sub_cancel_left, mk.injEq]
  constructor
  · simp only [List.append_assoc, List.cons_append, take_append_drop_append]
  · simp only [List.length_append, List.length_cons, List.length_take]
    omega

end CaretText
end AnalysisDesk.Editor
