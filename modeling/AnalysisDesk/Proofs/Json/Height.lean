import AnalysisDesk.Proofs.Json.Spelling
import AnalysisDesk.Proofs.Text.Lines

/-! # How many lines a value fills
The indented layout of a value begins a line for each item and member and for the end of each
container, and for nothing else: no string, key or number holds a character that a line could end
with. The number of lines can be told from the value without writing it. -/

namespace AnalysisDesk.Json

open AnalysisDesk.Number (Binary64 Layout decimalDigits signedDigits)
open AnalysisDesk.Text (splitLines joinLines displayedLines)

/-! ## The height of a value -/

mutual

/-- The number of lines of a value: one if nothing stands in it, otherwise one for either end of the
container and those of what stands between them. -/
def Value.height : Value → Nat
  | .array (item :: items) => 2 + (item.height + itemsHeight items)
  | .object ((_, value) :: members) => 2 + (value.height + membersHeight members)
  | _ => 1

/-- The number of lines of items. -/
def itemsHeight : List Value → Nat
  | [] => 0
  | item :: items => item.height + itemsHeight items

/-- The number of lines of members. -/
def membersHeight : List (String × Value) → Nat
  | [] => 0
  | (_, value) :: members => value.height + membersHeight members

end

theorem itemsHeight_eq_sum (items : List Value) :
    itemsHeight items = (items.map Value.height).sum := by
  induction items with
  | nil => rfl
  | cons item items ih => rw [itemsHeight, ih, List.map_cons, List.sum_cons]

theorem membersHeight_eq_sum (members : List (String × Value)) :
    membersHeight members = (members.map fun member => member.2.height).sum := by
  induction members with
  | nil => rfl
  | cons member members ih =>
    obtain ⟨key, value⟩ := member
    rw [membersHeight, ih, List.map_cons, List.sum_cons]

/-- An array that is not empty has two lines more than its items. -/
theorem height_array {items : List Value} (filled : items ≠ []) :
    (Value.array items).height = 2 + (items.map Value.height).sum := by
  obtain ⟨item, items, rfl⟩ := List.exists_cons_of_ne_nil filled
  rw [Value.height, itemsHeight_eq_sum, List.map_cons, List.sum_cons]

/-- An object that is not empty has two lines more than the values of its members. -/
theorem height_object {members : List (String × Value)} (filled : members ≠ []) :
    (Value.object members).height = 2 + (members.map fun member => member.2.height).sum := by
  obtain ⟨⟨key, value⟩, members, rfl⟩ := List.exists_cons_of_ne_nil filled
  rw [Value.height, membersHeight_eq_sum, List.map_cons, List.sum_cons]

/-! ## Texts on one line -/

/-- Whether a character can end a line, or belong to the end of one. -/
def isLineEnd (c : Char) : Bool := c = '\n' || c = '\r'

/-- A text without a character that could end a line. -/
def OneLine (text : List Char) : Prop := ∀ c ∈ text, isLineEnd c = false

instance (text : List Char) : Decidable (OneLine text) :=
  List.decidableBAll (isLineEnd · = false) text

theorem OneLine.append {left right : List Char} (h : OneLine left) (h' : OneLine right) :
    OneLine (left ++ right) :=
  fun c member => (List.mem_append.mp member).elim (h c) (h' c)

theorem OneLine.notMem {text : List Char} (h : OneLine text) {c : Char}
    (lineEnd : isLineEnd c = true) : c ∉ text := by
  intro member
  rw [h c member] at lineEnd
  exact Bool.false_ne_true lineEnd

theorem isLineEnd_hexDigit : ∀ n < 16, isLineEnd (hexDigit n) = false := by decide

/-- However a character is written in a string, it stays on the line. -/
theorem Escaped.oneLine {c : Char} {written : List Char} {piece : Piece}
    (h : Escaped c written piece) : OneLine written := by
  cases h with
  | @named letter unnumbered stands =>
    -- No letter that an escape is named by could end a line.
    have visible : isLineEnd letter = false := by
      by_contra lineEnd
      simp only [isLineEnd, Bool.not_eq_false, Bool.or_eq_true, decide_eq_true_eq] at lineEnd
      rcases lineEnd with rfl | rfl <;> cases stands
    simp only [OneLine, List.forall_mem_cons]
    exact ⟨rfl, visible, nofun⟩
  | control small =>
    simp only [OneLine, List.forall_mem_cons]
    exact ⟨rfl, rfl, rfl, rfl, isLineEnd_hexDigit _ (by omega), isLineEnd_hexDigit _ (by omega),
      nofun⟩
  | printed quote backslash printed =>
    have visible : isLineEnd c = false := by
      by_contra lineEnd
      simp only [isLineEnd, Bool.not_eq_false, Bool.or_eq_true, decide_eq_true_eq] at lineEnd
      rcases lineEnd with rfl | rfl <;> exact printed (by decide)
    simp only [OneLine, List.forall_mem_cons]
    exact ⟨visible, nofun⟩

/-- **A string is on one line**, whatever characters it is made of. -/
theorem oneLine_textLiteral (s : List Char) : OneLine (textLiteral s) := by
  have escaped : OneLine (escapeText s) := by
    intro c member
    obtain ⟨c', -, member⟩ := List.mem_flatMap.mp member
    exact (escaped_escapeChar c').oneLine c member
  have quote : OneLine ['"'] := by decide
  exact (quote.append escaped).append quote

/-- A character of a number does not end a line. -/
theorem isLineEnd_of_isNumberChar {c : Char} (h : isNumberChar c = true) :
    isLineEnd c = false := by
  by_contra lineEnd
  simp only [isLineEnd, Bool.not_eq_false, Bool.or_eq_true, decide_eq_true_eq] at lineEnd
  rcases lineEnd with rfl | rfl <;> exact absurd h (by decide)

/-! ## Numbers -/

/-- A text that nothing but characters of numbers stand in. -/
def Numeric (text : List Char) : Prop := ∀ c ∈ text, isNumberChar c = true

instance (text : List Char) : Decidable (Numeric text) :=
  List.decidableBAll (isNumberChar · = true) text

theorem Numeric.append {left right : List Char} (h : Numeric left) (h' : Numeric right) :
    Numeric (left ++ right) :=
  fun c member => (List.mem_append.mp member).elim (h c) (h' c)

theorem Numeric.cons {c : Char} {text : List Char} (first : isNumberChar c = true)
    (h : Numeric text) : Numeric (c :: text) :=
  List.forall_mem_cons.mpr ⟨first, h⟩

theorem numeric_replicate (n : Nat) : Numeric (List.replicate n '0') := by
  intro c member
  rw [List.eq_of_mem_replicate member]
  rfl

theorem numeric_decimalDigits (n : Nat) : Numeric (decimalDigits n) :=
  fun _ member => isNumberChar_of_isDigit (isDigit_of_mem_decimalDigits member)

theorem numeric_inPlace {digits : List Char} (all : Numeric digits) (first : Int) :
    Numeric (Number.inPlace digits first) := by
  unfold Number.inPlace
  cases first with
  | negSucc n => exact (Numeric.append (by decide) (numeric_replicate n)).append all
  | ofNat n =>
    dsimp only
    split
    · exact (all.append (numeric_replicate _)).append (by decide)
    · have front : Numeric (digits.take (n + 1)) := fun c member => all c (List.mem_of_mem_take member)
      have back : Numeric (digits.drop (n + 1)) := fun c member => all c (List.mem_of_mem_drop member)
      exact front.append (back.cons rfl)

theorem numeric_withPower {digits : List Char} (all : Numeric digits) (first : Int) :
    Numeric (Number.withPower digits first) := by
  have power : Numeric ('e' :: (if first < 0 then '-' else '+') :: decimalDigits first.natAbs) := by
    refine ((numeric_decimalDigits _).cons ?_).cons rfl
    split <;> rfl
  unfold Number.withPower
  refine Numeric.append ?_ power
  match digits with
  | [] => exact all
  | [d] => exact all
  | d :: next :: rest =>
    obtain ⟨digit, rest⟩ := List.forall_mem_cons.mp all
    exact (Numeric.cons rfl rest).cons digit

theorem numeric_write (layout : Layout) (x : Binary64) : Numeric (x.write layout) := by
  unfold Binary64.write
  refine Numeric.append ?_ ?_
  · split <;> decide
  · split
    · exact numeric_inPlace (numeric_decimalDigits _) _
    · exact numeric_withPower (numeric_decimalDigits _) _

/-- A number is made of characters of numbers. -/
theorem Numeral.numeric_write (n : Numeral) : Numeric n.write := by
  cases n with
  | binary x => exact Json.numeric_write .compact x
  | whole n =>
    cases n with
    | ofNat n => exact numeric_decimalDigits n
    | negSucc n => exact (numeric_decimalDigits (n + 1)).cons rfl

/-- A number is not the empty text: it shows a digit, a point or a power. -/
theorem Numeral.write_ne_nil (n : Numeral) : n.write ≠ [] := by
  cases n with
  | whole n =>
    cases n with
    | ofNat n => exact Nat.toDigits_ne_nil
    | negSucc n => exact List.cons_ne_nil _ _
  | binary x =>
    refine List.append_ne_nil_of_right_ne_nil _ ?_
    split
    · unfold Number.inPlace
      split
      · exact List.append_ne_nil_of_left_ne_nil (List.cons_ne_nil _ _) _
      · split
        · exact List.append_ne_nil_of_right_ne_nil _ (List.cons_ne_nil _ _)
        · exact List.append_ne_nil_of_right_ne_nil _ (List.cons_ne_nil _ _)
    · exact List.append_ne_nil_of_right_ne_nil _ (List.cons_ne_nil _ _)

/-! ## Texts that fill lines -/

/-- **A text fills a number of lines**: it has a newline between each two of them, no return, and
something behind the last newline. -/
structure Fills (text : List Char) (lines : Nat) : Prop where
  /-- It has a newline less than lines. -/
  count_eq : text.count '\n' + 1 = lines
  /-- It has no return. -/
  return_notMem : '\r' ∉ text
  /-- Its last line is not empty. -/
  ended : ∃ front last, text = front ++ [last] ∧ last ≠ '\n'

/-- A text on one line fills that line. -/
theorem OneLine.fills {text : List Char} (h : OneLine text) (filled : text ≠ []) :
    Fills text 1 := by
  refine ⟨?_, h.notMem rfl, text.dropLast, text.getLast filled, ?_, ?_⟩
  · rw [List.count_eq_zero.mpr (h.notMem rfl)]
  · exact (List.dropLast_concat_getLast filled).symm
  · intro newline
    exact h.notMem (c := '\n') rfl (newline ▸ List.getLast_mem filled)

theorem count_newLine (depth : Nat) : (newLine depth).count '\n' = 1 := by
  rw [newLine, List.count_cons_self, List.count_eq_zero.mpr]
  exact fun member => absurd (List.eq_of_mem_replicate member) (by decide)

theorem return_notMem_newLine (depth : Nat) : '\r' ∉ newLine depth := by
  rw [newLine, List.mem_cons, not_or]
  exact ⟨by decide, fun member => absurd (List.eq_of_mem_replicate member) (by decide)⟩

/-- **An entry of a container** adds its lines to those of what follows it: what stands before it
goes on the line above, or with it on its first line. -/
theorem Fills.entry (above before : List Char) (depth : Nat) {text rest : List Char} {m n : Nat}
    (lineAbove : OneLine above) (lineBefore : OneLine before) (entry : Fills text m)
    (more : Fills rest n) :
    Fills (above ++ (newLine depth ++ (before ++ (text ++ rest)))) (m + n) := by
  obtain ⟨front, last, rfl, visible⟩ := more.ended
  refine ⟨?_, ?_, above ++ (newLine depth ++ (before ++ (text ++ front))), last, ?_, visible⟩
  · -- The newline before the entry makes up for the one that its last line lacks.
    have counted := entry.count_eq
    have counted' := more.count_eq
    rw [List.count_append, List.count_append, List.count_append, List.count_append,
      List.count_eq_zero.mpr (lineAbove.notMem rfl), count_newLine,
      List.count_eq_zero.mpr (lineBefore.notMem rfl)]
    omega
  · have unreturned := more.return_notMem
    simp only [List.mem_append, not_or] at unreturned ⊢
    exact ⟨lineAbove.notMem rfl, return_notMem_newLine depth, lineBefore.notMem rfl,
      entry.return_notMem, unreturned⟩
  · simp only [List.append_assoc]

/-- The end of a container is on a line of its own. -/
theorem fills_end {mark : Char} (visible : isLineEnd mark = false) (depth : Nat) :
    Fills (newLine depth ++ [mark]) 2 := by
  have line : OneLine [mark] := List.forall_mem_singleton.mpr visible
  refine ⟨?_, ?_, newLine depth, mark, rfl, ?_⟩
  · rw [List.count_append, count_newLine, List.count_eq_zero.mpr (line.notMem rfl)]
  · rw [List.mem_append, not_or]
    exact ⟨return_notMem_newLine depth, line.notMem rfl⟩
  · rintro rfl
    cases visible

/-- A key is on one line with what separates it from its value. -/
theorem oneLine_key (key : String) : OneLine (textLiteral key.toList ++ [':', ' ']) :=
  (oneLine_textLiteral key.toList).append (by decide)

mutual

/-- **The indented layout** of a value fills as many lines as the value is high, at any depth. -/
theorem fills_indented (depth : Nat) (v : Value) : Fills (v.indented depth) v.height := by
  match v with
  | .null => exact (by decide : OneLine nullWord).fills (List.cons_ne_nil _ _)
  | .bool false => exact (by decide : OneLine (boolWord false)).fills (List.cons_ne_nil _ _)
  | .bool true => exact (by decide : OneLine (boolWord true)).fills (List.cons_ne_nil _ _)
  | .number n =>
    exact OneLine.fills (fun c member => isLineEnd_of_isNumberChar (n.numeric_write c member))
      n.write_ne_nil
  | .text s => exact (oneLine_textLiteral s.toList).fills (List.cons_ne_nil _ _)
  | .array [] => exact (by decide : OneLine ['[', ']']).fills (List.cons_ne_nil _ _)
  | .array (item :: items) =>
    rw [Value.height, Nat.add_left_comm]
    exact Fills.entry ['['] [] (depth + 1) (by decide) nofun
      (fills_indented (depth + 1) item) (fills_indentedItems depth items)
  | .object [] =>
    exact (by decide : OneLine ['\x7b', '\x7d']).fills (List.cons_ne_nil _ _)
  | .object ((key, value) :: members) =>
    have filled := Fills.entry ['\x7b'] _ (depth + 1) (by decide) (oneLine_key key)
      (fills_indented (depth + 1) value) (fills_indentedMembers depth members)
    rw [List.append_assoc] at filled
    rw [Value.height, Nat.add_left_comm]
    exact filled

theorem fills_indentedItems (depth : Nat) (items : List Value) :
    Fills (indentedItems depth items) (2 + itemsHeight items) := by
  match items with
  | [] => exact fills_end rfl depth
  | item :: items =>
    rw [itemsHeight, Nat.add_left_comm]
    exact Fills.entry [','] [] (depth + 1) (by decide) nofun
      (fills_indented (depth + 1) item) (fills_indentedItems depth items)

theorem fills_indentedMembers (depth : Nat) (members : List (String × Value)) :
    Fills (indentedMembers depth members) (2 + membersHeight members) := by
  match members with
  | [] => exact fills_end rfl depth
  | (key, value) :: members =>
    have filled := Fills.entry [','] _ (depth + 1) (by decide) (oneLine_key key)
      (fills_indented (depth + 1) value) (fills_indentedMembers depth members)
    rw [List.append_assoc] at filled
    rw [membersHeight, Nat.add_left_comm]
    exact filled

end

/-! ## On display -/

/-- A text that fills lines is displayed in its pieces. -/
theorem Fills.displayedLines_eq {text : List Char} {lines : Nat} (h : Fills text lines) :
    displayedLines text = splitLines text := by
  obtain ⟨front, last, rfl, visible⟩ := h.ended
  exact Text.displayedLines_eq_splitLines visible h.return_notMem

/-- As many lines are displayed as a text fills. -/
theorem Fills.length_displayedLines {text : List Char} {lines : Nat} (h : Fills text lines) :
    (displayedLines text).length = lines := by
  rw [h.displayedLines_eq, Text.length_splitLines, h.count_eq]

/-- The lines displayed are joined to the text that fills them. -/
theorem Fills.joinLines_displayedLines {text : List Char} {lines : Nat} (h : Fills text lines) :
    joinLines (displayedLines text) = text := by
  rw [h.displayedLines_eq, Text.joinLines_splitLines]

end AnalysisDesk.Json
