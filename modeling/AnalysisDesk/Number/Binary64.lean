/-! # Finite binary numbers of 64 bits
A finite number of the 64-bit binary format, kept as a sign, a whole significand and a power of
two. Everything here is exact arithmetic on naturals: `ofRatio` rounds a quotient to the nearest
number of the format, and products and quotients are rounded once from their exact value. -/

namespace AnalysisDesk.Number

/-- The number `± significand · 2 ^ exponent`. -/
structure Binary64 where
  /-- Whether the number carries a minus sign; zero may. -/
  negative : Bool
  /-- The significand, below `2 ^ 53`. -/
  significand : Nat
  /-- The power of two, from `-1074` to `971`. -/
  exponent : Int
  deriving DecidableEq, Repr

namespace Binary64

/-- The least exponent of the format. -/
def leastExponent : Int := -1074

/-- The greatest exponent of the format. -/
def greatestExponent : Int := 971

/-- Zero with a sign. -/
def zero (negative : Bool) : Binary64 := ⟨negative, 0, leastExponent⟩

/-- Whether the number is a zero of either sign. -/
def isZero (x : Binary64) : Bool := x.significand = 0

@[simp] theorem isZero_zero (negative : Bool) : (zero negative).isZero = true := rfl

/-- A fraction of two naturals multiplied by a power of two, again as a fraction. -/
def shift (num den : Nat) : Int → Nat × Nat
  | .ofNat n => (num * Nat.pow 2 n, den)
  | .negSucc n => (num, den * Nat.pow 2 (n + 1))

/-- The quotient rounded to the nearest whole number, a half to the even neighbour. -/
def roundQuotient (num den : Nat) : Nat :=
  let whole := num / den
  let rest := 2 * (num % den)
  if rest < den then whole
  else if den < rest then whole + 1
  else if whole % 2 = 0 then whole else whole + 1

/-- The exponent at which a positive fraction has a significand of 53 bits, or the least one. -/
def exponentFor (num den : Nat) : Int :=
  let guess : Int := (num.log2 : Int) - den.log2 - 52
  let (top, bottom) := shift num den (-guess)
  max leastExponent (if bottom * Nat.pow 2 52 ≤ top then guess else guess - 1)

/-- The number nearest to a fraction, or none if the fraction is too large for the format. -/
def ofRatio (negative : Bool) (num den : Nat) : Option Binary64 :=
  if num = 0 then some (zero negative)
  else
    let exponent := exponentFor num den
    let (top, bottom) := shift num den (-exponent)
    let significand := roundQuotient top bottom
    let (significand, exponent) :=
      if significand = Nat.pow 2 53 then (Nat.pow 2 52, exponent + 1) else (significand, exponent)
    if greatestExponent < exponent then none else some ⟨negative, significand, exponent⟩

/-- The number nearest to a natural. -/
def ofNat (n : Nat) : Option Binary64 := ofRatio false n 1

/-- The number nearest to a power of ten. -/
def powerOfTen (n : Nat) : Option Binary64 := ofNat (Nat.pow 10 n)

/-- The product, rounded once; none if it is too large. -/
def mul (x y : Binary64) : Option Binary64 :=
  let (num, den) := shift (x.significand * y.significand) 1 (x.exponent + y.exponent)
  ofRatio (x.negative != y.negative) num den

/-- The quotient by a number that is not zero, rounded once; none if it is too large. -/
def div (x y : Binary64) : Option Binary64 :=
  let (num, den) := shift x.significand y.significand (x.exponent - y.exponent)
  ofRatio (x.negative != y.negative) num den

/-- The number with the other sign. -/
def neg (x : Binary64) : Binary64 := { x with negative := !x.negative }

/-- The absolute value as an exact fraction. -/
def ratio (x : Binary64) : Nat × Nat := shift x.significand 1 x.exponent

@[simp] theorem neg_neg (x : Binary64) : x.neg.neg = x := by
  cases x; simp [neg]

/-- A zero fraction gives zero. -/
@[simp] theorem ofRatio_zero (negative : Bool) (den : Nat) :
    ofRatio negative 0 den = some (zero negative) := rfl

end Binary64
end AnalysisDesk.Number
