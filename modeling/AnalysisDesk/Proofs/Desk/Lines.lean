import AnalysisDesk.Desk.State
import AnalysisDesk.Proofs.Json.Height

/-! # The lines of a viewer
A viewer has one line for each element that it shows, whatever characters the element is made of. The
tokens of an analysis stand one below the other between two brackets. -/

namespace AnalysisDesk.Json

open AnalysisDesk.Text (begunText splitLines displayedLines)

/-! ## Texts in an array -/

/-- What stands behind an item: a comma if another item follows. -/
def separator : List String → List Char
  | [] => []
  | _ :: _ => [',']

/-- The lines of texts in an array, and the line of its end. -/
def textLines : List String → List (List Char)
  | [] => [[']']]
  | text :: rest => ("  ".toList ++ textLiteral text.toList ++ separator rest) :: textLines rest

/-- The items after the first, told by lines. -/
theorem indentedItems_texts (texts : List String) :
    indentedItems 0 (texts.map .text) = separator texts ++ begunText (textLines texts) := by
  induction texts with
  | nil => rfl
  | cons text rest ih =>
    rw [List.map_cons, indentedItems, ih, textLines, Text.begunText_cons]
    simp [Value.indented, newLine, separator]

/-- An array of texts, told by lines. -/
theorem indented_texts (text : String) (rest : List String) :
    (Value.array ((text :: rest).map .text)).indented 0 =
      ['['] ++ begunText (textLines (text :: rest)) := by
  rw [List.map_cons, Value.indented, indentedItems_texts, textLines, Text.begunText_cons]
  simp [Value.indented, newLine]

/-- None of the lines could be taken for two. -/
theorem oneLine_of_mem_textLines {texts : List String} :
    ∀ line ∈ textLines texts, OneLine line := by
  induction texts with
  | nil => exact List.forall_mem_singleton.mpr (by decide)
  | cons text rest ih =>
    have line : OneLine ("  ".toList ++ textLiteral text.toList ++ separator rest) := by
      refine (OneLine.append (by decide) (oneLine_textLiteral text.toList)).append ?_
      cases rest with
      | nil => exact nofun
      | cons next rest => exact (by decide : OneLine [','])
    exact List.forall_mem_cons.mpr ⟨line, ih⟩

/-- The line of a text by its number among so many: two blanks, the text as a string, and a comma
unless it is the last one. -/
def textLine (count i : Nat) (text : String) : List Char :=
  "  ".toList ++ textLiteral text.toList ++ if i + 1 = count then [] else [',']

/-- The lines by their numbers. -/
theorem textLines_eq_mapIdx (texts : List String) :
    textLines texts = texts.mapIdx (textLine texts.length) ++ [[']']] := by
  induction texts with
  | nil => rfl
  | cons text rest ih =>
    -- Behind the first text, both the numbers and the count are one less.
    have later : (fun i => textLine (text :: rest).length (i + 1)) = textLine rest.length := by
      funext i text
      simp only [textLine, List.length_cons, Nat.add_right_cancel_iff]
    have first : textLine (text :: rest).length 0 text =
        "  ".toList ++ textLiteral text.toList ++ separator rest := by
      cases rest <;> simp [textLine, separator]
    rw [List.mapIdx_cons, later, first, textLines, ih, List.cons_append]

/-- **The lines of an array of texts**: one for each text, between those of the brackets. -/
theorem displayedLines_texts {texts : List String} (filled : texts ≠ []) :
    displayedLines ((Value.array (texts.map .text)).indented 0) =
      ['['] :: texts.mapIdx (textLine texts.length) ++ [[']']] := by
  obtain ⟨text, rest, rfl⟩ := List.exists_cons_of_ne_nil filled
  have pieces : splitLines (['['] ++ begunText (textLines (text :: rest))) =
      ['['] :: textLines (text :: rest) :=
    Text.splitLines_append_begunText (by decide) fun line member =>
      (oneLine_of_mem_textLines line member).notMem rfl
  rw [(fills_indented 0 _).displayedLines_eq, indented_texts, pieces, textLines_eq_mapIdx,
    List.cons_append]

end AnalysisDesk.Json

namespace AnalysisDesk.Desk

open AnalysisDesk.Json
open AnalysisDesk.Service (Analysis)
open AnalysisDesk.Text (joinLines displayedLines)

/-- **A viewer shows one line for each element** of a value: as many as the value is high, and none
of its text is lost between them. The tokens of an analysis, if it has any, stand on a line each,
whatever was on display before. -/
theorem line_per_element (viewer : Viewer) (value : Value) (s : State) (analysis : Analysis) :
    ((viewer.present value).lineCount = value.height ∧
      joinLines (displayedLines (viewer.present value).text) = (viewer.present value).text) ∧
    (analysis.tokens ≠ [] →
      (s.display (.success analysis)).tokens.lineCount = analysis.tokens.length + 2 ∧
      displayedLines (s.display (.success analysis)).tokens.text =
        ['['] :: analysis.tokens.mapIdx (textLine analysis.tokens.length) ++ [[']']]) := by
  have fills := fills_indented 0 value
  refine ⟨⟨fills.length_displayedLines, fills.joinLines_displayedLines⟩, fun filled => ?_⟩
  have lines : displayedLines (s.display (.success analysis)).tokens.text =
      ['['] :: analysis.tokens.mapIdx (textLine analysis.tokens.length) ++ [[']']] :=
    displayedLines_texts filled
  refine ⟨?_, lines⟩
  rw [Viewer.lineCount, lines, List.length_append, List.length_cons, List.length_mapIdx]
  rfl

/-- A member whose key and items could be taken for the ends of lines. -/
def brokenValue : Value := .object [("k\n", .array [.null, .text "\r\n"]), ("l", .array [])]

theorem broken_lines :
    ["a\nb", "\r"] ≠ ([] : List String) ∧
      ((Viewer.titled "AST").present brokenValue).lineCount = 7 ∧
      displayedLines ((State.opening [] none).display
        (.success ⟨["a\nb", "\r"], brokenValue⟩)).tokens.text =
        ["[".toList, "  \"a\\nb\",".toList, "  \"\\r\"".toList, "]".toList] := by
  have filled : ["a\nb", "\r"] ≠ ([] : List String) := by decide
  have shown := line_per_element (.titled "AST") brokenValue (.opening [] none)
    ⟨["a\nb", "\r"], brokenValue⟩
  exact ⟨filled, shown.1.1.trans (by decide), (shown.2 filled).2.trans (by decide)⟩

end AnalysisDesk.Desk
