/-! # Similarity of words
How much two words have in common: the share of each that is matched in the other, and the share of
the matches that stand in the same order. Two letters match if they are equal and not too far apart,
and each letter is matched once. -/

namespace AnalysisDesk.Text

/-- A fraction of naturals; the denominator is never zero. -/
structure Share where
  /-- The numerator. -/
  num : Nat
  /-- The denominator. -/
  den : Nat
  deriving DecidableEq, Repr

/-- Whether one fraction is at most another. -/
def Share.atMost (x y : Share) : Bool := x.num * y.den ≤ y.num * x.den

/-- A fraction is at most itself. -/
@[simp] theorem Share.atMost_self (x : Share) : x.atMost x = true := by
  simp [Share.atMost]

/-- A letter, and whether it is matched. -/
structure Letter where
  /-- The letter. -/
  char : Char
  /-- Whether it is matched. -/
  matched : Bool
  deriving DecidableEq, Repr

/-- Match the first free letter equal to `c` between two positions, none if there is none. -/
def matchFirst (c : Char) (low high : Nat) : Nat → List Letter → Option (List Letter)
  | _, [] => none
  | position, letter :: rest =>
    if low ≤ position && position ≤ high && letter.char = c && !letter.matched then
      some ({ letter with matched := true } :: rest)
    else (matchFirst c low high (position + 1) rest).map (letter :: ·)

/-- Match the letters of a word from a position on: those that are matched, and the other word. -/
def matchLetters (reach : Nat) : Nat → List Char → List Letter → List Char × List Letter
  | _, [], other => ([], other)
  | position, c :: rest, other =>
    match matchFirst c (position - reach) (position + reach) 0 other with
    | none => matchLetters reach (position + 1) rest other
    | some other =>
      let (found, other) := matchLetters reach (position + 1) rest other
      (c :: found, other)

/-- How far apart the positions of matching letters may be. -/
def matchReach (left right : List Char) : Nat := max left.length right.length / 2 - 1

/-- The similarity of two words: a third of the sum of the three shares. -/
def similarity (left right : List Char) : Share :=
  if left.isEmpty && right.isEmpty then ⟨1, 1⟩
  else
    let letters := right.map fun c => (⟨c, false⟩ : Letter)
    let (found, letters) := matchLetters (matchReach left right) 0 left letters
    let count := found.length
    if count = 0 then ⟨0, 1⟩
    else
      let inOrder := (letters.filter (·.matched)).map (·.char)
      let displaced := ((found.zip inOrder).filter fun (x, y) => x != y).length / 2
      let (a, b) := (left.length, right.length)
      ⟨count * count * b + count * count * a + (count - displaced) * a * b, 3 * a * b * count⟩

end AnalysisDesk.Text
