import AnalysisDesk.Proofs.Screen.Panels
import Mathlib.Data.List.Enum

/-! # What can be drawn
A viewer numbers the lines of its text by positions of the screen. Where all the numbers that it
takes are positions, the viewer is in reach, and its panel shows the lines from the scroll position
on; where one of them is not, there is no drawing of the desk. An empty viewer and a panel without
rows or columns take no numbers. -/

namespace AnalysisDesk.Desk.Viewer

open AnalysisDesk.Text (displayedLines)

/-- A line of the text by its number, empty if there is none. -/
def line (v : Viewer) (n : Nat) : List Char := ((displayedLines v.text)[n]?).getD []

/-- Behind the last line there is none. -/
theorem line_of_le {v : Viewer} {n : Nat} (h : v.lineCount ≤ n) : v.line n = [] := by
  rw [line, List.getElem?_eq_none h, Option.getD_none]

end AnalysisDesk.Desk.Viewer

namespace AnalysisDesk.Screen

open AnalysisDesk.Desk (State Viewer)
open AnalysisDesk.Text (displayedLines)

/-! ## Lines in an area -/

/-- A missing line leaves no mark. -/
@[simp] theorem leavesMark_nil (width : Nat) : leavesMark width [] = false := rfl

/-- The lines of an area are those from the scroll position on. -/
theorem getElem?_take_drop (v : Viewer) {height i : Nat} (h : i < height) :
    (((displayedLines v.text).drop v.scroll).take height)[i]? =
      (displayedLines v.text)[v.scroll + i]? := by
  rw [List.getElem?_take_of_lt h, List.getElem?_drop]

/-- **A viewer in reach** inside an area: the numbers that drawing it takes are positions. -/
structure InReach (v : Viewer) (inner : Area) : Prop where
  /-- The number of the line behind the area is one. -/
  behind : v.scroll + inner.height ≤ lastPosition
  /-- So is that of each line that leaves a mark, counted from the top of the screen. -/
  marks : ∀ i < inner.height, leavesMark inner.width (v.line (v.scroll + i)) = true →
    inner.y + v.scroll + i ≤ lastPosition

/-- A viewer is in reach if its area is, counted on from the first line of the text. -/
theorem InReach.of_bottom {v : Viewer} {inner : Area}
    (near : v.scroll + inner.bottom ≤ lastPosition) : InReach v inner := by
  have bottom : inner.bottom = inner.y + inner.height := rfl
  refine ⟨by omega, fun i h _ => ?_⟩
  omega

/-- Counting the lines that are there is counting all rows of the area: no other leaves a mark. -/
theorem marksInPlace_iff (v : Viewer) (inner : Area) :
    (((((displayedLines v.text).drop v.scroll).take inner.height).zipIdx
      (inner.y + v.scroll)).all fun (line, place) =>
        place ≤ lastPosition || !leavesMark inner.width line) = true ↔
      ∀ i < inner.height, leavesMark inner.width (v.line (v.scroll + i)) = true →
        inner.y + v.scroll + i ≤ lastPosition := by
  simp only [List.all_eq_true, List.forall_mem_zipIdx, Bool.or_eq_true, decide_eq_true_eq,
    Bool.not_eq_true']
  generalize shown_eq : ((displayedLines v.text).drop v.scroll).take inner.height = shown
  have row (i : Nat) (h : i < inner.height) : v.line (v.scroll + i) = (shown[i]?).getD [] := by
    rw [← shown_eq, getElem?_take_drop v h]
    rfl
  have short : shown.length ≤ inner.height := by
    rw [← shown_eq, List.length_take]
    exact Nat.min_le_left _ _
  constructor
  · intro each i h mark
    rw [row i h] at mark
    by_cases there : i < shown.length
    · rw [List.getElem?_eq_getElem there, Option.getD_some] at mark
      exact (each i there).resolve_right (by simp [mark])
    · rw [List.getElem?_eq_none (Nat.le_of_not_lt there), Option.getD_none, leavesMark_nil] at mark
      cases mark
  · intro each i there
    have place := each i (Nat.lt_of_lt_of_le there short)
    rw [row i (Nat.lt_of_lt_of_le there short), List.getElem?_eq_getElem there,
      Option.getD_some] at place
    cases mark : leavesMark inner.width shown[i] with
    | true => exact .inl (place mark)
    | false => exact .inr rfl

/-- **The lines in an area** with rows and columns are those from the scroll position on, if the
viewer is in reach; otherwise there are none to draw. -/
theorem window?_eq_some_iff {v : Viewer} {inner : Area} (wide : 0 < inner.width)
    (tall : 0 < inner.height) {shown : List (List Char)} :
    window? (displayedLines v.text) v.scroll inner = some shown ↔
      InReach v inner ∧ ((displayedLines v.text).drop v.scroll).take inner.height = shown := by
  have someColumns : ¬ inner.width = 0 := Nat.ne_of_gt wide
  unfold window?
  by_cases near : v.scroll + inner.height ≤ lastPosition
  · have narrowed : min v.scroll lastPosition = v.scroll := by omega
    simp only [narrowed, someColumns, near, decide_false, decide_true, Bool.false_or,
      Bool.true_and, Option.ite_none_right_eq_some, Option.some.injEq, marksInPlace_iff]
    exact and_congr_left' ⟨fun marks => ⟨near, marks⟩, InReach.marks⟩
  · -- A scroll position that was narrowed is too far as well, for the area has a row.
    have far : ¬ min v.scroll lastPosition + inner.height ≤ lastPosition := by omega
    simp only [someColumns, far, decide_false, Bool.false_and, Bool.or_self, Bool.false_eq_true,
      if_false, reduceCtorEq, false_iff, not_and]
    exact fun reach => absurd reach.behind near

/-- In an area without rows or columns no number is too great. -/
theorem window?_of_flat {inner : Area} (flat : inner.width = 0 ∨ inner.height = 0)
    (lines : List (List Char)) (first : Nat) : ∃ shown, window? lines first inner = some shown := by
  unfold window?
  rcases flat with narrow | low
  · exact ⟨_, if_pos (by simp [narrow])⟩
  · have within : min first lastPosition ≤ lastPosition := Nat.min_le_right _ _
    exact ⟨_, if_pos (by simp [low, within])⟩

/-! ## Viewers that can be drawn -/

/-- **A viewer that can be drawn** in an area: it is in reach, unless there is nothing to number. -/
def Drawable (v : Viewer) (inner : Area) : Prop :=
  v.text ≠ [] → 0 < inner.width → 0 < inner.height → InReach v inner

/-- Just the viewers that can be drawn are. -/
theorem isSome_viewerLines?_iff {v : Viewer} {inner : Area} :
    (viewerLines? v inner).isSome = true ↔ Drawable v inner := by
  unfold viewerLines? Drawable
  by_cases empty : v.text = []
  · rw [empty]
    exact ⟨fun _ filled => absurd rfl filled, fun _ => rfl⟩
  · rw [if_neg (by simpa using empty), Option.isSome_map, Option.isSome_iff_exists]
    constructor
    · rintro ⟨shown, drawn⟩ - wide tall
      exact ((window?_eq_some_iff wide tall).mp drawn).1
    · intro reach
      rcases Nat.eq_zero_or_pos inner.width with narrow | wide
      · exact window?_of_flat (.inl narrow) _ _
      · rcases Nat.eq_zero_or_pos inner.height with low | tall
        · exact window?_of_flat (.inr low) _ _
        · exact ⟨_, (window?_eq_some_iff wide tall).mpr ⟨reach empty wide tall, rfl⟩⟩

/-- **The rows inside a viewer** that was drawn are its lines from the scroll position on. -/
theorem row_of_viewerLines? {v : Viewer} {inner : Area} {content : List Row}
    (drawn : viewerLines? v inner = some content) (filled : v.text ≠ []) {i : Nat}
    (h : i < inner.height) :
    Row.settle (Row.fit inner.width ((content[i]?).getD [])) =
      lineRow inner.width (v.line (v.scroll + i)) := by
  rcases Nat.eq_zero_or_pos inner.width with narrow | wide
  · -- A row without columns shows nothing, whatever it holds.
    rw [narrow]
    exact (List.eq_nil_of_length_eq_zero (by simp)).trans
      (List.eq_nil_of_length_eq_zero (length_clippedRow 0 _)).symm
  · rw [viewerLines?, if_neg (by simpa using filled), Option.map_eq_some_iff] at drawn
    obtain ⟨shown, window, rfl⟩ := drawn
    obtain ⟨-, rfl⟩ := (window?_eq_some_iff wide (Nat.zero_lt_of_lt h)).mp window
    rw [lineRows, settle_fit_getD, getElem?_take_drop v h]
    rfl

/-! ## Desks that can be drawn -/

variable (s : State) (width height : Nat)

/-- **There is a drawing** just if both viewers can be drawn. -/
theorem isSome_draw?_iff : (draw? s width height).isSome = true ↔
    ∀ side : Side, Drawable (side.viewer s) (side.area s width height).inner := by
  rw [Option.isSome_iff_exists]
  simp only [draw?_eq_some_iff, ← isSome_viewerLines?_iff, Option.isSome_iff_exists]
  constructor
  · rintro ⟨-, content, lines, -⟩ side
    exact ⟨_, lines side⟩
  · intro each
    choose content lines using each
    exact ⟨_, content, lines, rfl⟩

/-- A desk without an answer can be drawn at any size. -/
theorem exists_drawing_of_empty (empty : ∀ side : Side, (side.viewer s).text = []) :
    ∃ p, draw? s width height = some p :=
  Option.isSome_iff_exists.mp
    ((isSome_draw?_iff s width height).mpr fun side filled => absurd (empty side) filled)

/-- A desk can be drawn if the areas of both viewers end early enough, counted on from the lines
that they are at. -/
theorem exists_drawing_of_bottom
    (near : ∀ side : Side,
      (side.viewer s).scroll + (side.area s width height).inner.bottom ≤ lastPosition) :
    ∃ p, draw? s width height = some p :=
  Option.isSome_iff_exists.mp
    ((isSome_draw?_iff s width height).mpr fun side _ _ _ => .of_bottom (near side))

variable {s width height}

/-- **A drawing shows what its panels hold**, the editor and both viewers. -/
theorem rowIn_draw? {p : Picture} (drawing : draw? s width height = some p) :
    (∀ i < (editorArea s width height).inner.height,
      p.rowIn (editorArea s width height).inner i =
        lineRow (editorArea s width height).inner.width
          ((s.surface.buffer.lines[firstRow s width height + i]?).getD [])) ∧
    ∀ side : Side, (side.viewer s).text ≠ [] →
      ∀ i < (side.area s width height).inner.height,
        p.rowIn (side.area s width height).inner i =
          lineRow (side.area s width height).inner.width
            ((side.viewer s).line ((side.viewer s).scroll + i)) := by
  obtain ⟨content, lines, rfl⟩ := (draw?_eq_some_iff s width height).mp drawing
  unfold pictureFrom
  constructor
  · intro i h
    have inPanel : i < (partsFor s height).editor - 2 := h
    rw [rowIn_inner (stands_editorRows s width height _ _) h, lineRows, Area.width_inner]
    change Row.settle (Row.fit (width - 2) _) = _
    rw [settle_fit_getD, List.getElem?_take_of_lt inPanel, List.getElem?_drop]
    rfl
  · intro side filled i h
    rw [rowIn_inner (side.stands s width height _ content) h]
    exact row_of_viewerLines? (lines side) filled h

end AnalysisDesk.Screen
