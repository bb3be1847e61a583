import AnalysisDesk.Number.Shortest

/-! # Layout of a decimal
How the shortest digits of a number are written: with the point in place, or with a power of ten
after them. A format says which powers of the first digit it writes in place. -/

namespace AnalysisDesk.Number

/-- The powers of ten of the first digit that are written with the point in place. -/
structure Layout where
  /-- The least such power, none for no bound. -/
  least : Option Int
  /-- The greatest such power, none for no bound. -/
  greatest : Option Int
  deriving DecidableEq, Repr

/-- Numbers from `0.00001` to below `10 ^ 16` are written with the point in place. -/
def Layout.compact : Layout := ⟨some (-5), some 15⟩

/-- Every number is written with the point in place. -/
def Layout.positional : Layout := ⟨none, none⟩

/-- Whether a power of the first digit is written with the point in place. -/
def Layout.inPlace (layout : Layout) (first : Int) : Bool :=
  layout.least.all (· ≤ first) && layout.greatest.all (first ≤ ·)

/-- The digits of a natural in base ten. -/
def decimalDigits (n : Nat) : List Char := Nat.toDigits 10 n

/-- An integer in base ten with a minus sign if it is negative. -/
def signedDigits (n : Int) : List Char :=
  match n with
  | .ofNat n => decimalDigits n
  | .negSucc n => '-' :: decimalDigits (n + 1)

/-- The digits with the point in place; at least one digit stands on each side of it. -/
def inPlace (digits : List Char) (first : Int) : List Char :=
  match first with
  | .negSucc n => ['0', '.'] ++ List.replicate n '0' ++ digits
  | .ofNat n =>
    if digits.length ≤ n + 1 then
      digits ++ List.replicate (n + 1 - digits.length) '0' ++ ['.', '0']
    else digits.take (n + 1) ++ '.' :: digits.drop (n + 1)

/-- The digits with a power of ten after them, its sign always written. -/
def withPower (digits : List Char) (first : Int) : List Char :=
  let head := match digits with
    | [] => []
    | [d] => [d]
    | d :: rest => d :: '.' :: rest
  head ++ 'e' :: (if first < 0 then '-' else '+') :: decimalDigits first.natAbs

/-- A number in a layout. -/
def Binary64.write (layout : Layout) (x : Binary64) : List Char :=
  let d := shortest x
  let digits := decimalDigits d.digits
  let first := d.exponent + digits.length - 1
  (if x.negative then ['-'] else []) ++
    (if layout.inPlace first then Number.inPlace digits first else withPower digits first)

end AnalysisDesk.Number
