/-! # Ranges of code points
Properties of characters are kept as increasing lists of inclusive ranges; `covers` looks a code
point up in one. -/

namespace AnalysisDesk.Text

/-- An inclusive range of code points, first and last. -/
abbrev CodeRange := Nat × Nat

/-- Whether one of the ranges, listed in increasing order, holds the code point. -/
def covers : List CodeRange → Nat → Bool
  | [], _ => false
  | (first, last) :: rest, code =>
    if code < first then false else if code ≤ last then true else covers rest code

@[simp] theorem covers_nil (code : Nat) : covers [] code = false := rfl

/-- A code point inside the first range is covered. -/
theorem covers_cons_of_mem {first last code : Nat} {rest : List CodeRange}
    (hfirst : first ≤ code) (hlast : code ≤ last) :
    covers ((first, last) :: rest) code = true := by
  simp [covers, Nat.not_lt.mpr hfirst, hlast]

end AnalysisDesk.Text
