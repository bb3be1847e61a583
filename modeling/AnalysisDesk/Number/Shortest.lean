import AnalysisDesk.Number.Binary64

/-! # Shortest decimal digits
The decimal text of a binary number shows the fewest digits that read back as that number, and of
those the nearest to it. The numbers that read back form an interval around it; the digits are
sought on one decimal grid after another, coarse to fine, among the two grid points next to the
number. -/

namespace AnalysisDesk.Number

/-- The decimal `digits · 10 ^ exponent`. -/
structure Decimal where
  /-- The digits as one whole number. -/
  digits : Nat
  /-- The power of ten of the last digit. -/
  exponent : Int
  deriving DecidableEq, Repr

/-- A fraction multiplied by a power of ten, again as a fraction. -/
def scaleTen (num den : Nat) : Int → Nat × Nat
  | .ofNat n => (num * Nat.pow 10 n, den)
  | .negSucc n => (num, den * Nat.pow 10 (n + 1))

/-- The numbers that round to a binary number, as multiples of a quarter of its last bit. -/
structure Interval where
  /-- Four times the significand. -/
  middle : Nat
  /-- The lower end. -/
  low : Nat
  /-- The upper end. -/
  high : Nat
  /-- Whether the ends round to the number too. -/
  closed : Bool
  /-- The power of two of a quarter of the last bit. -/
  exponent : Int
  deriving DecidableEq, Repr

namespace Interval

/-- The interval of a number. Below a power of two the neighbours lie closer together. -/
def of (x : Binary64) : Interval :=
  let middle := 4 * x.significand
  let narrow := x.significand = Nat.pow 2 52 && Binary64.leastExponent < x.exponent
  { middle, low := if narrow then middle - 1 else middle - 2, high := middle + 2
    closed := x.significand % 2 = 0, exponent := x.exponent - 2 }

/-- A multiple of a quarter bit in units of `10 ^ exponent`, as a fraction. -/
def inUnits (interval : Interval) (point : Nat) (exponent : Int) : Nat × Nat :=
  let (num, den) := Binary64.shift point 1 interval.exponent
  scaleTen num den (-exponent)

/-- Whether `digits · 10 ^ exponent` lies in the interval. -/
def contains (interval : Interval) (digits : Nat) (exponent : Int) : Bool :=
  let (lowNum, lowDen) := interval.inUnits interval.low exponent
  let (highNum, highDen) := interval.inUnits interval.high exponent
  if interval.closed then lowNum ≤ digits * lowDen && digits * highDen ≤ highNum
  else lowNum < digits * lowDen && digits * highDen < highNum

/-- The point of a grid in the interval that is nearest to the middle; a tie goes to the even
digits. -/
def nearest? (interval : Interval) (exponent : Int) : Option Decimal :=
  let (num, den) := interval.inUnits interval.middle exponent
  let below := num / den
  let above := below + 1
  match interval.contains below exponent, interval.contains above exponent with
  | false, false => none
  | true, false => some ⟨below, exponent⟩
  | false, true => some ⟨above, exponent⟩
  | true, true =>
    let rest := 2 * (num % den)
    let takeBelow := rest < den || (rest = den && below % 2 = 0)
    some ⟨if takeBelow then below else above, exponent⟩

end Interval

/-- The power of ten of the first digit of a positive fraction. -/
def firstExponent (num den : Nat) : Int :=
  let guess : Int := (((num.log2 : Int) - den.log2) * 30103) / 100000
  let reached (exponent : Int) : Bool :=
    let (top, bottom) := scaleTen num den (-exponent)
    bottom ≤ top
  if reached (guess + 1) then guess + 1
  else if reached guess then guess
  else if reached (guess - 1) then guess - 1
  else guess - 2

/-- A decimal without zeros at the end of its digits; the fuel bounds their number. -/
def Decimal.strip : Nat → Decimal → Decimal
  | 0, d => d
  | fuel + 1, d =>
    if d.digits ≠ 0 && d.digits % 10 = 0 then strip fuel ⟨d.digits / 10, d.exponent + 1⟩ else d

/-- The first hit on the grids from `10 ^ exponent` down. -/
def firstHit (interval : Interval) (exponent : Int) : Nat → Option Decimal
  | 0 => none
  | fuel + 1 =>
    match interval.nearest? exponent with
    | some d => some d
    | none => firstHit interval (exponent - 1) fuel

/-- The shortest decimal that reads back as a number; zero is the digit zero. -/
def shortest (x : Binary64) : Decimal :=
  if x.isZero then ⟨0, 0⟩
  else
    let (num, den) := x.ratio
    let found := firstHit (.of x) (firstExponent num den) 18
    (found.getD ⟨num / den, 0⟩).strip 400

end AnalysisDesk.Number
