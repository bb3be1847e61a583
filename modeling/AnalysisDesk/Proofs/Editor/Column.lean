import AnalysisDesk.Editor.Line

/-! # Columns and byte offsets
A column counts characters, an offset counts bytes. `byteOffset_eq` says that the offset of a column
is the length in bytes of the characters before it, so an edit at that offset is the edit of the list
of characters at that column. -/

namespace AnalysisDesk.Editor.Line

open AnalysisDesk.Text (byteLength byteLength_nil byteLength_cons)

/-! ## The offset of a column -/

/-- The offset at a place among the offsets of a line is the length of the characters before it. -/
theorem getElem?_offsets (start : Nat) (line : Line) (column : Nat) (h : column < line.length) :
    (offsets start line)[column]? = some (start + byteLength (line.take column)) := by
  induction line generalizing start column with
  | nil => exact absurd h (Nat.not_lt_zero column)
  | cons c rest ih =>
    cases column with
    | zero => rfl
    | succ column =>
      have hrest : column < rest.length := Nat.lt_of_succ_lt_succ h
      rw [offsets_cons, List.getElem?_cons_succ, ih _ _ hrest, List.take_succ_cons,
        byteLength_cons, Nat.add_assoc]

/-- A line has as many offsets as characters. -/
@[simp] theorem length_offsets (start : Nat) (line : Line) :
    (offsets start line).length = line.length := by
  induction line generalizing start with
  | nil => rfl
  | cons c rest ih => rw [offsets_cons, List.length_cons, ih, List.length_cons]

/-- **The offset of a column** is the length in bytes of the characters before the column, and of the
whole line for a column past its end. -/
theorem byteOffset_eq (line : Line) (column : Nat) :
    line.byteOffset column = byteLength (line.take column) := by
  unfold byteOffset
  by_cases h : column < line.length
  · rw [getElem?_offsets 0 line column h, Option.getD_some, Nat.zero_add]
  · have hend : line.length ≤ column := Nat.le_of_not_lt h
    rw [List.getElem?_eq_none (by rw [length_offsets]; exact hend), Option.getD_none,
      List.take_of_length_le hend]

/-- The offset of the column behind some characters is their length in bytes. -/
@[simp] theorem byteOffset_append (before after : Line) :
    (before ++ after).byteOffset before.length = byteLength before := by
  rw [byteOffset_eq, List.take_left]

/-! ## Edits at the offset of a column -/

/-- A line splits at the length in bytes of its first characters. -/
@[simp] theorem splitAt?_byteLength (before after : Line) :
    splitAt? (byteLength before) (before ++ after) = some (before, after) := by
  induction before with
  | nil => exact splitAt?_zero after
  | cons c before ih =>
    -- The first character takes at least one byte, so the recursion passes over it.
    obtain ⟨size, hsize⟩ : ∃ size, c.utf8Size = size + 1 :=
      Nat.exists_eq_add_one.mpr c.utf8Size_pos
    have hlength : byteLength (c :: before) = (size + byteLength before) + 1 := by
      rw [byteLength_cons, hsize]; omega
    have hinside : ¬ (size + byteLength before + 1 < c.utf8Size) := by omega
    have hleft : size + byteLength before + 1 - c.utf8Size = byteLength before := by omega
    rw [hlength, List.cons_append, splitAt?, if_neg hinside, hleft, ih]
    rfl

/-- Putting a character in behind some characters. -/
@[simp] theorem insertAt?_byteLength (c : Char) (before after : Line) :
    insertAt? (byteLength before) c (before ++ after) = some (before ++ c :: after) := by
  rw [insertAt?, splitAt?_byteLength]
  rfl

/-- Taking out the character behind some characters. -/
@[simp] theorem removeAt?_byteLength (c : Char) (before after : Line) :
    removeAt? (byteLength before) (before ++ c :: after) = some (before ++ after) := by
  rw [removeAt?, splitAt?_byteLength]

end AnalysisDesk.Editor.Line
