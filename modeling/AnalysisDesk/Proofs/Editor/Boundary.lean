import AnalysisDesk.Proofs.Editor.WellFormed

/-! # Edits at the boundaries of characters
A line is edited at byte offsets, and an offset inside a character would break the text. The calls
on a line take the offsets of the columns and no others, and to its bytes they do what they say. A
cursor stands at a column of its line, so the edits at the cursor call on the line at such offsets
only, and come to the same as edits of the list of its characters. -/

namespace AnalysisDesk.Editor

open AnalysisDesk.Text (bytes byteLength byteLength_cons byteLength_append bytes_append
  length_bytes)

namespace Line

/-! ## Boundaries -/

/-- A **boundary** of a line: an offset that is a position in the line as a string, so that the
bytes up to it are whole characters. -/
def IsBoundary (line : Line) (offset : Nat) : Prop :=
  (⟨offset⟩ : String.Pos.Raw).IsValid (String.ofList line)

/-- A line takes as many bytes as its string. -/
theorem utf8ByteSize_ofList (line : Line) :
    (String.ofList line).utf8ByteSize = byteLength line := by
  rw [← String.size_toByteArray, String.toByteArray_ofList, ← length_bytes, ← List.size_toByteArray]
  rfl

/-- **The boundaries are the offsets of the columns.** -/
theorem isBoundary_iff {line : Line} {offset : Nat} :
    line.IsBoundary offset ↔ ∃ column, line.byteOffset column = offset := by
  rw [IsBoundary, String.Pos.Raw.isValid_ofList]
  refine exists_congr fun column => ?_
  rw [utf8ByteSize_ofList, byteOffset_eq]
  exact eq_comm

/-! ## Splits -/

/-- **The parts of a split** make up the line, and the first takes as many bytes as the offset. -/
theorem splitAt?_eq_some_iff {line before after : Line} {offset : Nat} :
    splitAt? offset line = some (before, after) ↔
      line = before ++ after ∧ byteLength before = offset := by
  constructor
  · intro split
    induction line generalizing offset before after with
    | nil =>
      cases offset with
      | zero => cases split; exact ⟨rfl, rfl⟩
      | succ offset => cases split
    | cons c rest ih =>
      cases offset with
      | zero => cases split; exact ⟨rfl, rfl⟩
      | succ offset =>
        -- An offset inside the first character is refused.
        rw [splitAt?, Option.ite_none_left_eq_some, Option.map_eq_some_iff] at split
        obtain ⟨whole, ⟨before, after⟩, split, same⟩ := split
        cases same
        obtain ⟨rfl, length⟩ := ih split
        refine ⟨rfl, ?_⟩
        rw [byteLength_cons, length]
        omega
  · rintro ⟨rfl, rfl⟩
    exact splitAt?_byteLength before after

/-- The bytes of the parts of a split are those before the offset and those behind it. -/
theorem bytes_of_splitAt? {line before after : Line} {offset : Nat}
    (split : splitAt? offset line = some (before, after)) :
    bytes before = (bytes line).take offset ∧ bytes after = (bytes line).drop offset := by
  obtain ⟨rfl, rfl⟩ := splitAt?_eq_some_iff.mp split
  rw [bytes_append, ← length_bytes]
  exact ⟨List.take_left.symm, List.drop_left.symm⟩

/-- At the offset of a column a line splits at the column. -/
theorem splitAt?_byteOffset (line : Line) (column : Nat) :
    splitAt? (line.byteOffset column) line = some (line.take column, line.drop column) :=
  splitAt?_eq_some_iff.mpr
    ⟨(List.take_append_drop column line).symm, (line.byteOffset_eq column).symm⟩

/-- A line splits at its boundaries and nowhere else. -/
theorem isSome_splitAt?_iff {line : Line} {offset : Nat} :
    (splitAt? offset line).isSome = true ↔ line.IsBoundary offset := by
  rw [Option.isSome_iff_exists, isBoundary_iff]
  constructor
  · rintro ⟨⟨before, after⟩, split⟩
    obtain ⟨rfl, length⟩ := splitAt?_eq_some_iff.mp split
    exact ⟨before.length, (byteOffset_append before after).trans length⟩
  · rintro ⟨column, rfl⟩
    exact ⟨_, line.splitAt?_byteOffset column⟩

/-! ## The offsets of columns -/

/-- A column before the end has a character. -/
theorem exists_drop_eq {line : Line} {column : Nat} (h : column < line.length) :
    ∃ c, line.drop column = c :: line.drop (column + 1) :=
  ⟨_, List.drop_eq_getElem_cons h⟩

/-- The offset of a column with a character is before the end. -/
theorem byteOffset_lt {line : Line} {column : Nat} (h : column < line.length) :
    line.byteOffset column < byteLength line := by
  obtain ⟨c, rest⟩ := exists_drop_eq h
  have size := c.utf8Size_pos
  have length : byteLength line =
      byteLength (line.take column) + (c.utf8Size + byteLength (line.drop (column + 1))) := by
    rw [← byteLength_cons, ← byteLength_append, ← rest, List.take_append_drop]
  rw [byteOffset_eq]
  omega

/-- **What the offset of a column marks** in a line. -/
structure Marks (line : Line) (column : Nat) : Prop where
  /-- It is the number of bytes of the characters before the column. -/
  eq_length : line.byteOffset column = (bytes (line.take (min column line.length))).length
  /-- It cuts no character. -/
  isBoundary : line.IsBoundary (line.byteOffset column)
  /-- It is not behind the end. -/
  le : line.byteOffset column ≤ (bytes line).length
  /-- The bytes before it are those of the characters before the column. -/
  bytes_take : bytes (line.take column) = (bytes line).take (line.byteOffset column)
  /-- The bytes behind it are those of the others. -/
  bytes_drop : bytes (line.drop column) = (bytes line).drop (line.byteOffset column)

theorem marks (line : Line) (column : Nat) : line.Marks column := by
  have all : line.take (min column line.length) = line.take column := by
    rw [List.take_eq_take_iff]
    omega
  have eq_length : line.byteOffset column = (bytes (line.take column)).length := by
    rw [length_bytes, byteOffset_eq]
  obtain ⟨bytes_take, bytes_drop⟩ := bytes_of_splitAt? (line.splitAt?_byteOffset column)
  refine ⟨all ▸ eq_length, isBoundary_iff.mpr ⟨column, rfl⟩, ?_, bytes_take, bytes_drop⟩
  rw [eq_length, bytes_take, List.length_take]
  exact Nat.min_le_right _ _

/-! ## The calls on a line -/

/-- A character is taken out where a split leaves one behind the offset. -/
theorem removeAt?_eq_some_iff {line result : Line} {offset : Nat} :
    removeAt? offset line = some result ↔
      ∃ before c after, splitAt? offset line = some (before, c :: after) ∧
        before ++ after = result := by
  unfold removeAt?
  constructor
  · intro removed
    split at removed
    · rename_i before c after split
      exact ⟨before, c, after, split, Option.some.inj removed⟩
    · cases removed
  · rintro ⟨before, c, after, split, rfl⟩
    rw [split]

/-- **What the calls at an offset of a line do**: each asks for a boundary, a removal for one before
the end, and the bytes of what it gives are told by those of the line. -/
structure Calls (line : Line) (offset : Nat) : Prop where
  split_iff : (splitAt? offset line).isSome = true ↔ line.IsBoundary offset
  insert_iff : ∀ c, (insertAt? offset c line).isSome = true ↔ line.IsBoundary offset
  remove_iff : (removeAt? offset line).isSome = true ↔
    line.IsBoundary offset ∧ offset < (bytes line).length
  bytes_of_split : ∀ before after, splitAt? offset line = some (before, after) →
    bytes before = (bytes line).take offset ∧ bytes after = (bytes line).drop offset
  bytes_of_insert : ∀ c result, insertAt? offset c line = some result →
    bytes result = (bytes line).take offset ++ bytes [c] ++ (bytes line).drop offset
  /-- The bytes that are missing are those of one character. -/
  bytes_of_remove : ∀ result, removeAt? offset line = some result →
    ∃ c, bytes line = (bytes line).take offset ++ bytes [c] ++
        (bytes line).drop (offset + c.utf8Size) ∧
      bytes result = (bytes line).take offset ++ (bytes line).drop (offset + c.utf8Size)

/-- **The calls on a line are calls on its bytes**, and they are refused only where a character
would be cut or is missing. -/
theorem calls (line : Line) (offset : Nat) : line.Calls offset := by
  refine ⟨isSome_splitAt?_iff, fun c => ?_, ?_, fun _ _ => bytes_of_splitAt?,
    fun c result inserted => ?_, fun result removed => ?_⟩
  · rw [insertAt?, Option.isSome_map]
    exact isSome_splitAt?_iff
  · rw [Option.isSome_iff_exists]
    simp only [removeAt?_eq_some_iff]
    constructor
    · rintro ⟨result, before, c, after, split, -⟩
      refine ⟨isSome_splitAt?_iff.mp (Option.isSome_of_eq_some split), ?_⟩
      obtain ⟨rfl, rfl⟩ := splitAt?_eq_some_iff.mp split
      have size := c.utf8Size_pos
      rw [length_bytes, byteLength_append, byteLength_cons]
      omega
    · rintro ⟨boundary, inside⟩
      obtain ⟨⟨before, after⟩, split⟩ :=
        Option.isSome_iff_exists.mp (isSome_splitAt?_iff.mpr boundary)
      cases after with
      | nil =>
        -- Only behind the end there is nothing left.
        obtain ⟨rfl, rfl⟩ := splitAt?_eq_some_iff.mp split
        rw [List.append_nil, length_bytes] at inside
        exact absurd inside (Nat.lt_irrefl _)
      | cons c after => exact ⟨before ++ after, before, c, after, split, rfl⟩
  · obtain ⟨⟨before, after⟩, split, rfl⟩ := Option.map_eq_some_iff.mp inserted
    obtain ⟨first, second⟩ := bytes_of_splitAt? split
    rw [← first, ← second, ← bytes_append, ← bytes_append, List.append_assoc]
    rfl
  · obtain ⟨before, c, after, split, rfl⟩ := removeAt?_eq_some_iff.mp removed
    obtain ⟨first, second⟩ := bytes_of_splitAt? split
    have one : (bytes [c]).length = c.utf8Size := length_bytes [c]
    have third : (bytes line).drop (offset + c.utf8Size) = bytes after := by
      rw [← List.drop_drop, ← second, ← List.singleton_append, bytes_append, ← one, List.drop_left]
    obtain ⟨rfl, -⟩ := splitAt?_eq_some_iff.mp split
    refine ⟨c, ?_, ?_⟩
    · rw [third, ← first, ← bytes_append, ← bytes_append, List.append_assoc]
      rfl
    · rw [third, ← first, bytes_append]

/-! ## Calls at the offset of a column -/

/-- **A line opens at a column**: the calls that split it there or put a character in are allowed,
and do so at the column of its characters. -/
structure OpensAt (line : Line) (column : Nat) : Prop where
  isBoundary : line.IsBoundary (line.byteOffset column)
  splitAt?_eq : splitAt? (line.byteOffset column) line = some (line.take column, line.drop column)
  insertAt?_eq : ∀ c, insertAt? (line.byteOffset column) c line = some (line.insertIdx column c)

/-- **A line holds a character at a column**: the call that takes it out is allowed, and takes out
the one at the column. -/
structure HoldsAt (line : Line) (column : Nat) : Prop where
  isBoundary : line.IsBoundary (line.byteOffset column)
  lt : line.byteOffset column < (bytes line).length
  removeAt?_eq : removeAt? (line.byteOffset column) line = some (line.eraseIdx column)

/-- A line opens at all its columns, the last one behind its characters. -/
theorem opensAt {line : Line} {column : Nat} (h : column ≤ line.length) : line.OpensAt column where
  isBoundary := (line.marks column).isBoundary
  splitAt?_eq := line.splitAt?_byteOffset column
  insertAt?_eq c := by
    obtain ⟨before, after, rfl, rfl, inserted⟩ := List.exists_of_modifyTailIdx (List.cons c) h
    rw [byteOffset_append, insertAt?_byteLength, List.insertIdx, inserted]

/-- A line holds a character at all columns but that one. -/
theorem holdsAt {line : Line} {column : Nat} (h : column < line.length) : line.HoldsAt column where
  isBoundary := (line.marks column).isBoundary
  lt := by
    rw [length_bytes]
    exact byteOffset_lt h
  removeAt?_eq := by
    obtain ⟨c, rest⟩ := exists_drop_eq h
    refine removeAt?_eq_some_iff.mpr ⟨line.take column, c, line.drop (column + 1), ?_,
      (List.eraseIdx_eq_take_drop_succ line column).symm⟩
    rw [splitAt?_byteOffset, rest]

end Line

namespace Buffer

/-! ## Edits at the cursor -/

/-- **The edits at the cursor** of a buffer, whose line is `line`: the calls they make on the line
are allowed, and each edit is one of the list of its characters at the column of the cursor. -/
structure EditsLine (b : Buffer) (line : Line) : Prop where
  /-- The cursor is in the line. -/
  here : b.lines[b.row]? = some line
  /-- It stands where the line can be opened. -/
  opens : line.OpensAt b.column
  /-- There is a character before it, unless it is at the start. -/
  before : 0 < b.column → line.HoldsAt (b.column - 1)
  /-- There is a character under it, unless it is at the end. -/
  under : b.column < line.length → line.HoldsAt b.column
  newline?_eq : b.newline? = some ⟨(b.lines.set b.row (line.take b.column)).insertIdx (b.row + 1)
    (line.drop b.column), b.row + 1, 0⟩
  insert?_eq : ∀ c, c ≠ '\n' →
    b.insert? c = some ⟨b.lines.set b.row (line.insertIdx b.column c), b.row, b.column + 1⟩
  backspace?_eq : 0 < b.column →
    b.backspace? = some ⟨b.lines.set b.row (line.eraseIdx (b.column - 1)), b.row, b.column - 1⟩
  delete?_eq : b.column < line.length →
    b.delete? = some ⟨b.lines.set b.row (line.eraseIdx b.column), b.row, b.column⟩

/-- The cursor of a well-formed buffer stands in a line, and edits it at boundaries. -/
theorem WellFormed.exists_editsLine {b : Buffer} (h : b.WellFormed) : ∃ line, b.EditsLine line := by
  obtain ⟨-, -, row_lt, column_le⟩ := h
  have here : b.lines[b.row]? = some b.lines[b.row] := List.getElem?_eq_getElem row_lt
  generalize b.lines[b.row] = line at here column_le
  have opens := Line.opensAt column_le
  have before (inside : 0 < b.column) : line.HoldsAt (b.column - 1) := Line.holdsAt (by omega)
  refine ⟨line, here, opens, before, Line.holdsAt, ?_, fun c visible => ?_, fun inside => ?_,
    fun inside => ?_⟩
  · simp only [newline?, here, Option.bind_eq_bind, Option.bind_some, opens.splitAt?_eq]
    rfl
  · simp only [insert?, if_neg visible, here, Option.bind_eq_bind, Option.bind_some,
      opens.insertAt?_eq c]
    rfl
  · simp only [backspace?, if_pos inside, here, Option.bind_eq_bind, Option.bind_some,
      (before inside).removeAt?_eq]
    rfl
  · simp only [delete?, here, Option.bind_eq_bind, Option.bind_some, if_pos inside,
      (Line.holdsAt inside).removeAt?_eq]
    rfl

/-- **No edit cuts a character.** The offset of a column is the number of bytes of the characters
before it, in any line; the calls on a line are refused at no other offsets than those that cut a
character or where there is none; and after any edits of a new buffer, the edits at the cursor make
calls that are allowed and come to edits of the list of characters. -/
theorem edits_cut_no_character :
    (∀ (line : Line) (column : Nat), line.Marks column) ∧
      (∀ (line : Line) (offset : Nat), line.Calls offset) ∧
      ∀ (text : List Char) (edits : List Edit),
        ∃ line, (edits.foldl edit (ofText text)).EditsLine line := by
  refine ⟨Line.marks, Line.calls, fun text edits => ?_⟩
  obtain ⟨b, -, fold, well⟩ := (wellFormed_ofText text).foldlM_edit? edits
  rw [fold]
  exact well.exists_editsLine

/-- Characters of two and of four bytes: an offset between them, and one inside the second. -/
example : Line.byteOffset ['é', '𝕫'] 1 = 2 ∧ Line.splitAt? 3 ['é', '𝕫'] = none := by decide

end Buffer
end AnalysisDesk.Editor
