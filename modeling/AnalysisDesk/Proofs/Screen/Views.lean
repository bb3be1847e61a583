import AnalysisDesk.Proofs.Screen.Reach
import AnalysisDesk.Proofs.Text.Lines

/-! # What the viewers show
In every drawing a viewer's panel shows the lines of its text from the scroll position on. But an
answer may have more lines than the screen can number: a desk whose viewer was scrolled to the end
of one cannot be drawn at all. -/

namespace AnalysisDesk.Desk.Viewer

open AnalysisDesk.Text (displayedLines)

/-- The last line of a text that is not empty. -/
theorem getLast?_displayedLines {v : Viewer} (filled : v.text ≠ []) :
    (displayedLines v.text).getLast? = some (v.line v.lastLine) := by
  have some_line := Text.displayedLines_ne_nil filled
  have inside : (displayedLines v.text).length - 1 < (displayedLines v.text).length :=
    Nat.sub_lt (List.length_pos_iff.mpr some_line) Nat.one_pos
  have named : v.line v.lastLine = (displayedLines v.text)[(displayedLines v.text).length - 1] := by
    rw [line, lastLine, lineCount, List.getElem?_eq_getElem inside, Option.getD_some]
  rw [List.getLast?_eq_getElem?, named, List.getElem?_eq_getElem inside]

end AnalysisDesk.Desk.Viewer

namespace AnalysisDesk.Screen

open AnalysisDesk.Desk (State Viewer)
open AnalysisDesk.Json (Value)
open AnalysisDesk.Text (displayedLines)

/-- **A panel shows the lines that the scroll position names.** -/
structure Names (p : Picture) (a : Area) (v : Viewer) : Prop where
  /-- A row shows its line, cut at the width. -/
  row_of_lt : ∀ i < a.height, v.scroll + i < v.lineCount →
    p.rowIn a i = lineRow a.width (v.line (v.scroll + i))
  /-- A row that there is no line for is blank. -/
  row_of_le : ∀ i < a.height, v.lineCount ≤ v.scroll + i → p.rowIn a i = Row.blank a.width
  /-- At the end of the text, the last line is on screen. -/
  last_row : v.scroll = v.lastLine → ∃ last, (displayedLines v.text).getLast? = some last ∧
    p.rowIn a 0 = lineRow a.width last

/-- In a drawing, the panel of a viewer with a text shows the lines that its scroll position
names. -/
theorem names_of_draw? {s : State} {width height : Nat} {p : Picture}
    (drawing : draw? s width height = some p) {side : Side} (filled : (side.viewer s).text ≠ [])
    (tall : 0 < (side.area s width height).inner.height) :
    Names p (side.area s width height).inner (side.viewer s) := by
  have shown := (rowIn_draw? drawing).2 side filled
  refine ⟨fun i h _ => shown i h, fun i h missing => ?_, fun atEnd => ?_⟩
  · rw [shown i h, Viewer.line_of_le missing, lineRow_nil]
  · refine ⟨_, Viewer.getLast?_displayedLines filled, ?_⟩
    rw [shown 0 tall, Nat.add_zero, atEnd]

/-- **Viewers show the lines that their scroll positions name** in every drawing, whatever the texts
and the size of the screen. There is a drawing just if both viewers can be drawn, and so there is
one as long as no panel has room for more than the screen can number, counted on from the first line
shown. -/
theorem viewer_shows_named (s : State) (width height : Nat) :
    (∀ p, draw? s width height = some p → ∀ side : Side, (side.viewer s).text ≠ [] →
      0 < (side.area s width height).inner.height →
      Names p (side.area s width height).inner (side.viewer s)) ∧
    ((draw? s width height).isSome = true ↔
      ∀ side : Side, Drawable (side.viewer s) (side.area s width height).inner) ∧
    ((∀ side : Side,
        (side.viewer s).scroll + (side.area s width height).inner.bottom ≤ lastPosition) →
      ∃ p, draw? s width height = some p) :=
  ⟨fun _ drawing _ filled tall => names_of_draw? drawing filled tall,
    isSome_draw?_iff s width height, exists_drawing_of_bottom s width height⟩

/-- A desk with an answer, whose tokens were scrolled to their end. -/
def answered : State :=
  ((State.opening [] none).display (.success ⟨["a", "b"], .null⟩)).cyclePanel.scroll .bottom

theorem answered_shows_end :
    answered.tokens.text ≠ [] ∧ (Side.tokens.area answered 40 12).inner = ⟨1, 8, 14, 2⟩ ∧
      answered.tokens.scroll + 10 ≤ lastPosition ∧
      ∃ p, draw? answered 40 12 = some p ∧ p.rowIn ⟨1, 8, 14, 2⟩ 0 = lineRow 14 [']'] ∧
        p.rowIn ⟨1, 8, 14, 2⟩ 1 = Row.blank 14 := by
  have filled : (Side.tokens.viewer answered).text ≠ [] := by decide
  have area : (Side.tokens.area answered 40 12).inner = ⟨1, 8, 14, 2⟩ := by decide
  have near : ∀ side : Side,
      (side.viewer answered).scroll + (side.area answered 40 12).inner.bottom ≤ lastPosition := by
    intro side
    cases side <;> decide
  obtain ⟨shown, -, reached⟩ := viewer_shows_named answered 40 12
  obtain ⟨p, drawing⟩ := reached near
  have names := shown p drawing .tokens filled (by decide)
  rw [area] at names
  refine ⟨filled, area, near .tokens, p, drawing, ?_, ?_⟩
  · exact names.row_of_lt 0 (by decide) (by decide)
  · exact names.row_of_le 1 (by decide) (by decide)

/-! ## An answer of more lines than the screen can name -/

/-- The items of an array, however many there are, end on a line of their own. -/
theorem exists_indentedItems (items : List Value) :
    ∃ front, Json.indentedItems 0 items = front ++ '\n' :: [']'] ∧
      items.length ≤ front.count '\n' := by
  induction items with
  | nil => exact ⟨[], rfl, Nat.le_refl 0⟩
  | cons item items ih =>
    obtain ⟨front, written, count⟩ := ih
    refine ⟨',' :: (Json.newLine 1 ++ (item.indented 1 ++ front)), ?_, ?_⟩
    · rw [Json.indentedItems, written, List.cons_append, List.append_assoc, List.append_assoc]
    · have begun : (Json.newLine 1).count '\n' = 1 := by decide
      rw [List.length_cons, List.count_cons, List.count_append, List.count_append, begun]
      omega

/-- **A long array**: its text has a line for each item and two more, and ends with the bracket. -/
theorem displayedLines_array (item : Value) (items : List Value) :
    ∃ front, displayedLines ((Value.array (item :: items)).indented 0) = front ++ [[']']] ∧
      items.length + 2 ≤ front.length := by
  obtain ⟨front, written, count⟩ := exists_indentedItems items
  have text : (Value.array (item :: items)).indented 0 =
      ('[' :: (Json.newLine 1 ++ (item.indented 1 ++ front))) ++ '\n' :: [']'] := by
    rw [Value.indented, written, List.cons_append, List.append_assoc, List.append_assoc]
  have shown : displayedLines ((Value.array (item :: items)).indented 0) =
      (Text.splitLines ('[' :: (Json.newLine 1 ++ (item.indented 1 ++ front)))).map
        Text.dropReturn ++ [[']']] := by
    rw [text]
    exact Text.displayedLines_append_newline _ (by decide) (by decide)
  have begun : (Json.newLine 1).count '\n' = 1 := by decide
  refine ⟨_, shown, ?_⟩
  rw [List.length_map, Text.length_splitLines, List.count_cons, List.count_append,
    List.count_append, begun]
  omega

/-- A desk with an answer whose parse tree has so many items, scrolled to its end by the keys. -/
def scrolledToEnd (items : Nat) : State :=
  let analysis := ⟨[], .array (List.replicate items (.number (.whole 0)))⟩
  ((State.opening [] none).display (.success analysis)).cyclePanel.cyclePanel.scroll .bottom

theorem text_scrolledToEnd (items : Nat) : (scrolledToEnd items).tree.text =
    (Value.array (List.replicate items (.number (.whole 0)))).indented 0 := rfl

theorem scroll_scrolledToEnd (items : Nat) :
    (scrolledToEnd items).tree.scroll = (scrolledToEnd items).tree.lastLine := rfl

/-- **A long answer cannot be drawn at its end**: the viewer of the parse tree was scrolled to the
last line of its text, where a bracket stands, and although its area has room for that line, there
is no drawing. -/
theorem longAnswer_undrawn :
    (scrolledToEnd 66000).panel = .tree ∧
      (scrolledToEnd 66000).tree.scroll = (scrolledToEnd 66000).tree.lastLine ∧
      (displayedLines (scrolledToEnd 66000).tree.text).getLast? = some [']'] ∧
      (Side.tree.area (scrolledToEnd 66000) 80 24).inner = ⟨33, 14, 46, 8⟩ ∧
      draw? (scrolledToEnd 66000) 80 24 = none := by
  obtain ⟨front, lines, many⟩ :=
    displayedLines_array (.number (.whole 0)) (List.replicate 65999 (.number (.whole 0)))
  rw [← List.replicate_succ, ← text_scrolledToEnd] at lines
  rw [List.length_replicate] at many
  have area : (Side.tree.area (scrolledToEnd 66000) 80 24).inner = ⟨33, 14, 46, 8⟩ := rfl
  have filled : (Side.tree.viewer (scrolledToEnd 66000)).text ≠ [] := by
    intro empty
    have none : displayedLines (scrolledToEnd 66000).tree.text = [] := by
      rw [show (scrolledToEnd 66000).tree.text = [] from empty, Text.displayedLines_nil]
    rw [lines] at none
    exact List.append_ne_nil_of_right_ne_nil _ (List.cons_ne_nil _ _) none
  have last : (scrolledToEnd 66000).tree.scroll = front.length := by
    rw [scroll_scrolledToEnd, Viewer.lastLine, Viewer.lineCount, lines, List.length_append]
    rfl
  have undrawable : ¬ Drawable (Side.tree.viewer (scrolledToEnd 66000))
      (Side.tree.area (scrolledToEnd 66000) 80 24).inner := by
    intro drawable
    have behind := (drawable filled (by rw [area]; decide) (by rw [area]; decide)).behind
    have position : lastPosition = 65535 := rfl
    have scroll : (Side.tree.viewer (scrolledToEnd 66000)).scroll = front.length := last
    omega
  refine ⟨rfl, scroll_scrolledToEnd 66000, ?_, area, ?_⟩
  · rw [lines, List.getLast?_concat]
  · rw [← Option.not_isSome_iff_eq_none, isSome_draw?_iff]
    exact fun drawable => undrawable (drawable .tree)

end AnalysisDesk.Screen
