import AnalysisDesk.Text.CodeRange

/-! # Blank characters
The characters with the property White_Space, and trimming by them. -/

namespace AnalysisDesk.Text

/-- The code points with the property White_Space, in increasing order. -/
def blankRanges : List CodeRange :=
  [(0x0009, 0x000D), (0x0020, 0x0020), (0x0085, 0x0085), (0x00A0, 0x00A0), (0x1680, 0x1680),
   (0x2000, 0x200A), (0x2028, 0x2029), (0x202F, 0x202F), (0x205F, 0x205F), (0x3000, 0x3000)]

/-- Whether `c` has the property White_Space. -/
def isBlank (c : Char) : Bool := covers blankRanges c.toNat

/-- The characters without the blank ones at either end. -/
def trimBlank (text : List Char) : List Char :=
  ((text.dropWhile isBlank).reverse.dropWhile isBlank).reverse

/-- Whether a text holds nothing but blank characters. -/
def isBlankText (text : String) : Bool := (trimBlank text.toList).isEmpty

@[simp] theorem trimBlank_nil : trimBlank [] = [] := rfl

/-- An ASCII space, tab, return or newline is blank. -/
theorem isBlank_of_isWhitespace {c : Char} (h : c.isWhitespace = true) : isBlank c = true := by
  simp only [Char.isWhitespace, Bool.or_eq_true, decide_eq_true_eq] at h
  rcases h with ((rfl | rfl) | rfl) | rfl <;> decide

end AnalysisDesk.Text
