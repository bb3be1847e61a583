import AnalysisDesk.Proofs.Screen.Cells
import AnalysisDesk.Screen.Picture

/-! # What a picture shows inside a panel
A picture is made of rows from top to bottom, and the two viewers share theirs. A panel stands in an
area of it if its rows are among the picture's, all from the same column on. Inside the frame there
is then, row by row, what the panel holds: nothing to the left of a panel reaches into it. -/

namespace AnalysisDesk.Screen

open AnalysisDesk.Desk (State Viewer Panel)
open AnalysisDesk.Text (displayedLines)

/-- The cells of a row of an area, counted from the top of the area. -/
def Picture.rowIn (p : Picture) (a : Area) (i : Nat) : Row :=
  (((p.rows[a.y + i]?).getD []).drop a.x).take a.width

/-- A line cut at a width, as it is shown inside a panel. -/
def lineRow (width : Nat) (line : List Char) : Row := clippedRow width (Span.plain line).glyphs

/-- A missing line is shown as a blank row. -/
@[simp] theorem lineRow_nil (width : Nat) : lineRow width [] = Row.blank width := by
  have none : (Span.plain []).glyphs = [] := rfl
  rw [lineRow, none, clippedRow_nil]

/-! ## Panels in an area -/

/-- A panel **stands** in an area of some rows. -/
def Stands (rows : List Row) (a : Area) (panel : List Row) : Prop :=
  ∀ i row, panel[i]? = some row →
    ∃ left right, left.length = a.x ∧ rows[a.y + i]? = some (left ++ (row ++ right))

/-- Rows between others stand over the whole width. -/
theorem stands_middle (above panel below : List Row) (width height : Nat) :
    Stands (above ++ (panel ++ below)) ⟨0, above.length, width, height⟩ panel := by
  intro i row found
  refine ⟨[], [], rfl, ?_⟩
  have inPanel : i < panel.length := (List.getElem?_eq_some_iff.mp found).1
  rw [List.getElem?_append_right (Nat.le_add_right _ _), Nat.add_sub_cancel_left,
    List.getElem?_append_left inPanel, found, List.nil_append, List.append_nil]

/-- Of two panels side by side, the left one stands where both stand. -/
theorem Stands.left {rows : List Row} {x y width both height : Nat} {left right : List Row}
    (h : Stands rows ⟨x, y, both, height⟩ (List.zipWith (· ++ ·) left right))
    (same : left.length = right.length) : Stands rows ⟨x, y, width, height⟩ left := by
  intro i row found
  have inLeft : i < left.length := (List.getElem?_eq_some_iff.mp found).1
  have beside : right[i]? = some right[i] := List.getElem?_eq_getElem (same ▸ inLeft)
  obtain ⟨before, after, hbefore, hrow⟩ := h i (row ++ right[i]) (by
    rw [List.getElem?_zipWith, found, beside])
  refine ⟨before, right[i] ++ after, hbefore, ?_⟩
  rw [← List.append_assoc row]
  exact hrow

/-- Of two panels side by side, the right one stands behind the width of the left one. -/
theorem Stands.right {rows : List Row} {x y width leftWidth both height : Nat}
    {left right : List Row}
    (h : Stands rows ⟨x, y, both, height⟩ (List.zipWith (· ++ ·) left right))
    (same : left.length = right.length) (wide : ∀ row ∈ left, row.length = leftWidth) :
    Stands rows ⟨x + leftWidth, y, width, height⟩ right := by
  intro i row found
  have inRight : i < right.length := (List.getElem?_eq_some_iff.mp found).1
  have beside : left[i]? = some left[i] := List.getElem?_eq_getElem (same ▸ inRight)
  obtain ⟨before, after, hbefore, hrow⟩ := h i (left[i] ++ row) (by
    rw [List.getElem?_zipWith, found, beside])
  refine ⟨before ++ left[i], after, ?_, ?_⟩
  · rw [List.length_append, hbefore, wide _ (List.getElem_mem _)]
  · rw [List.append_assoc, ← List.append_assoc left[i]]
    exact hrow

/-! ## Inside a frame -/

/-- The rows between the edges of a frame hold what is inside, or nothing where there is nothing. -/
theorem Frame.getElem?_around (frame : Frame) (width : Nat) (content : List Row)
    {i height : Nat} (h : i < height) : (frame.around width content (height + 2))[i + 1]? =
      some (frame.side width ((content[i]?).getD [])) := by
  -- What is inside is filled up to the height with rows that hold nothing.
  have filled : ((content ++ List.replicate (height - content.length) []).take height)[i]? =
      some ((content[i]?).getD []) := by
    rw [List.getElem?_take_of_lt h]
    by_cases there : i < content.length
    · rw [List.getElem?_append_left there, List.getElem?_eq_getElem there, Option.getD_some]
    · have missing := Nat.le_of_not_lt there
      have inFill : i - content.length < height - content.length := by omega
      rw [List.getElem?_append_right missing, List.getElem?_replicate_of_lt inFill,
        List.getElem?_eq_none missing, Option.getD_none]
  have inside : i < ((((content ++ List.replicate (height - content.length) []).take height).map
      (frame.side width))).length := by
    rw [List.length_map]
    exact (List.getElem?_eq_some_iff.mp filled).1
  rw [around, List.getElem?_cons_succ, List.getElem?_append_left inside, List.getElem?_map, filled,
    Option.map_some]

/-- The edges of a frame are narrow. -/
theorem Frame.width_side (frame : Frame) : (frame.cell '│').width ≤ 1 := by
  have narrow : Text.clusterWidth ['│'] ≤ 1 := by decide +kernel
  exact narrow

/-- **Inside a panel** a picture shows what the panel holds, row by row. -/
theorem rowIn_inner {rows : List Row} {a : Area} {frame : Frame} {content : List Row}
    (stands : Stands rows a (frame.around a.width content a.height)) {i : Nat}
    (h : i < a.inner.height) (cursor : Option (Nat × Nat)) :
    Picture.rowIn ⟨rows.map Row.settle, cursor⟩ a.inner i =
      Row.settle (Row.fit a.inner.width ((content[i]?).getD [])) := by
  obtain ⟨x, y, width, height⟩ := a
  obtain ⟨inside, rfl⟩ : ∃ inside, height = inside + 2 := by
    refine ⟨height - 2, ?_⟩
    have : i < height - 2 := h
    omega
  have hi : i < inside := h
  obtain ⟨left, right, hleft, hrow⟩ := stands (i + 1) _ (frame.getElem?_around width content hi)
  have hy : (Area.inner ⟨x, y, width, inside + 2⟩).y + i = y + (i + 1) := by
    change min (y + 1) (y + (inside + 2)) + i = y + (i + 1)
    omega
  unfold Picture.rowIn
  rw [hy, List.getElem?_map, hrow, Option.map_some, Option.getD_some]
  -- A panel of less than two columns has nothing inside.
  rcases width with - | - | width
  · rfl
  · rfl
  · have hx : (Area.inner ⟨x, y, width + 2, inside + 2⟩).x = left.length + 1 := by
      change min (x + 1) (x + (width + 2)) = left.length + 1
      have : left.length = x := hleft
      omega
    have side : frame.side (width + 1 + 1) ((content[i]?).getD []) =
        frame.cell '│' :: (Row.fit width ((content[i]?).getD []) ++ [frame.cell '│']) := rfl
    have shown := Row.settle_middle left (Row.fit width ((content[i]?).getD []))
      ([frame.cell '│'] ++ right) frame.width_side
    rw [Row.length_fit] at shown
    rw [hx, side, List.cons_append, List.append_assoc]
    exact shown

/-! ## Where the panels stand -/

@[simp] theorem length_barRows (width : Nat) (spans : List Span) (height : Nat) :
    (barRows width spans height).length = height := by
  rw [barRows, List.length_take, List.length_cons, List.length_replicate]
  omega

@[simp] theorem length_editorRows (s : State) (width height scroll : Nat) :
    (editorRows s width height scroll).length = height :=
  Frame.length_around _ _ _ _

@[simp] theorem length_viewerRows (v : Viewer) (focused : Bool) (area : Area)
    (content : List Row) : (viewerRows v focused area content).length = area.height :=
  Frame.length_around _ _ _ _

/-- The rows of a frame are as wide as its area. -/
theorem Frame.length_of_mem_around {frame : Frame} {width height : Nat} {content : List Row}
    {row : Row} (h : row ∈ frame.around width content height) : row.length = width := by
  unfold around at h
  split at h
  · cases h
  · rw [List.mem_singleton.mp h]
    exact length_between _ _ _ _
  · rcases List.mem_cons.mp h with rfl | h
    · exact length_between _ _ _ _
    · rcases List.mem_append.mp h with h | h
      · obtain ⟨inside, -, rfl⟩ := List.mem_map.mp h
        exact length_between _ _ _ _
      · rw [List.mem_singleton.mp h]
        exact length_between _ _ _ _

/-- The rows of the banner, none without a complaint. -/
def bannerLayer (s : State) (width height : Nat) : List Row :=
  match s.complaint with
  | none => []
  | some detail => bannerRows detail width (partsFor s height).banner

variable (s : State) (width height scroll : Nat)

/-- Without a complaint the banner gets no rows. -/
theorem length_bannerLayer :
    (bannerLayer s width height).length = (partsFor s height).banner := by
  unfold bannerLayer partsFor
  cases s.complaint with
  | none => exact (Nat.zero_min _).symm
  | some detail => exact Frame.length_around _ _ _ _

/-- The parts of the screen, from top to bottom. -/
theorem layers_eq (viewers : List Row) : layers s width height scroll viewers =
    barRows width (headerSpans s) (partsFor s height).header ++
      (editorRows s width (partsFor s height).editor scroll ++
        (bannerLayer s width height ++ (viewers ++
          barRows width (statusSpans s) (partsFor s height).status))) := by
  simp only [← List.append_assoc]
  rfl

/-- **The editor stands** below the header, whatever the rows of the viewers are. -/
theorem stands_editorRows (viewers : List Row) :
    Stands (layers s width height scroll viewers) (editorArea s width height)
      (editorRows s width (partsFor s height).editor scroll) := by
  have stands := stands_middle (barRows width (headerSpans s) (partsFor s height).header)
    (editorRows s width (partsFor s height).editor scroll)
    (bannerLayer s width height ++ (viewers ++
      barRows width (statusSpans s) (partsFor s height).status))
    width (partsFor s height).editor
  rw [length_barRows] at stands
  rw [layers_eq]
  exact stands

/-- The rows of the viewers stand in their area. -/
theorem stands_viewers (viewers : List Row) :
    Stands (layers s width height scroll viewers) (viewersArea s width height) viewers := by
  have stands := stands_middle
    (barRows width (headerSpans s) (partsFor s height).header ++
      editorRows s width (partsFor s height).editor scroll ++ bannerLayer s width height)
    viewers (barRows width (statusSpans s) (partsFor s height).status)
    width (partsFor s height).results
  rw [List.length_append, List.length_append, length_barRows, length_editorRows,
    length_bannerLayer] at stands
  rw [layers_eq, ← List.append_assoc, ← List.append_assoc]
  exact stands

/-! ## The two viewers -/

/-- One of the two viewers. -/
inductive Side
  | tokens
  | tree
  deriving DecidableEq, Repr

namespace Side

/-- The viewer on a side of the desk. -/
def viewer : Side → State → Viewer
  | .tokens, s => s.tokens
  | .tree, s => s.tree

/-- The panel that has the keyboard when the keys go to a side. -/
def panel : Side → Panel
  | .tokens => .tokens
  | .tree => .tree

/-- The area of the viewer on a side. -/
def area : Side → State → Nat → Nat → Area
  | .tokens => tokensArea
  | .tree => treeArea

/-- The rows inside the viewer on a side, if it can be drawn. -/
def lines? (side : Side) (s : State) (width height : Nat) : Option (List Row) :=
  viewerLines? (side.viewer s) (side.area s width height).inner

/-- The rows of the viewer on a side around those inside it. -/
def rows (side : Side) (s : State) (width height : Nat) (content : List Row) : List Row :=
  viewerRows (side.viewer s) (s.panel = side.panel) (side.area s width height) content

end Side

/-- The rows of both viewers, side by side around those inside them. -/
def viewersLayer (content : Side → List Row) : List Row :=
  List.zipWith (· ++ ·) (Side.tokens.rows s width height (content .tokens))
    (Side.tree.rows s width height (content .tree))

/-- The viewers are drawn side by side if each of them can be drawn. -/
theorem viewersRows?_eq_some_iff {viewers : List Row} :
    viewersRows? s width height = some viewers ↔
      ∃ content : Side → List Row, (∀ side, side.lines? s width height = some (content side)) ∧
        viewersLayer s width height content = viewers := by
  unfold viewersRows?
  simp only [Option.bind_eq_bind, Option.bind_eq_some_iff, Option.pure_def, Option.some.injEq]
  constructor
  · rintro ⟨tokens, drawnTokens, tree, drawnTree, rfl⟩
    refine ⟨fun side => side.casesOn tokens tree, fun side => ?_, rfl⟩
    cases side with
    | tokens => exact drawnTokens
    | tree => exact drawnTree
  · rintro ⟨content, drawn, rfl⟩
    exact ⟨_, drawn .tokens, _, drawn .tree, rfl⟩

/-- **A viewer stands on its side**, the right one where the left one ends. -/
theorem Side.stands (side : Side) (content : Side → List Row) :
    Stands (layers s width height scroll (viewersLayer s width height content))
      (side.area s width height) (side.rows s width height (content side)) := by
  have both := stands_viewers s width height scroll (viewersLayer s width height content)
  have length_rows : ∀ side : Side, (side.rows s width height (content side)).length =
      (viewersArea s width height).height := by
    intro side
    cases side <;> exact length_viewerRows _ _ _ _
  have same := (length_rows .tokens).trans (length_rows .tree).symm
  cases side with
  | tokens => exact both.left same
  | tree =>
    -- The rows of the left viewer all end in the column that the right one begins in.
    have wide : ∀ row ∈ Side.tokens.rows s width height (content .tokens),
        row.length = tokensWidth width := fun row h => Frame.length_of_mem_around h
    have stands : Stands _
        { viewersArea s width height with
          x := 0 + tokensWidth width, width := width - tokensWidth width } _ :=
      both.right same wide
    rw [Nat.zero_add] at stands
    exact stands

/-! ## Drawings -/

/-- The row of the source that a drawing shows first. -/
def firstRow : Nat := s.surface.scrollFor (editorArea s width height).inner.height

/-- The picture around the rows of the viewers, from a row of the source on. -/
def pictureFrom (first : Nat) (viewers : List Row) : Picture :=
  ⟨(layers s width height first viewers).map Row.settle,
    editorCursor s (editorArea s width height).inner first⟩

/-- A drawing is such a picture, if the viewers have rows. -/
theorem draw?_eq : draw? s width height =
    (viewersRows? s width height).map (pictureFrom s width height (firstRow s width height)) := rfl

/-- **What a drawing is made of**: there is one if both viewers can be drawn. -/
theorem draw?_eq_some_iff {p : Picture} : draw? s width height = some p ↔
    ∃ content : Side → List Row, (∀ side, side.lines? s width height = some (content side)) ∧
      pictureFrom s width height (firstRow s width height) (viewersLayer s width height content) =
        p := by
  rw [draw?_eq, Option.map_eq_some_iff]
  constructor
  · rintro ⟨viewers, drawn, rfl⟩
    obtain ⟨content, lines, rfl⟩ := (viewersRows?_eq_some_iff s width height).mp drawn
    exact ⟨content, lines, rfl⟩
  · rintro ⟨content, lines, rfl⟩
    exact ⟨_, (viewersRows?_eq_some_iff s width height).mpr ⟨content, lines, rfl⟩, rfl⟩

end AnalysisDesk.Screen
