import AnalysisDesk.Number.Shortest
import AnalysisDesk.Toml.Text

/-! # Numbers in a document
An integer is decimal, or in base sixteen, eight or two behind its mark; a real number has a
fraction, a power of ten or both. Single underscores may stand between digits. Integers have 64 bits
with a sign, and real numbers are rounded to the nearest binary number of 64 bits. -/

namespace AnalysisDesk.Number

/-! ## The nearest binary number
A decimal of any length is rounded once, from its exact value. -/

/-- Decimals of this power or more are too large for a binary number. -/
def beyondGreatest : Int := 310

/-- Decimals below this power are nearer to zero than to any other binary number. -/
def belowLeast : Int := -330

/-- The power of ten just above a decimal that is not zero. -/
def Decimal.powerAbove (d : Decimal) : Int := d.exponent + (decimalLength d.digits : Nat)
where
  /-- The number of digits of a natural. -/
  decimalLength (n : Nat) : Nat := (Nat.toDigits 10 n).length

/-- The binary number nearest to a decimal under a sign; none if the decimal is too large. -/
def Decimal.nearest? (negative : Bool) (d : Decimal) : Option Binary64 :=
  if d.digits = 0 || d.powerAbove < belowLeast then some (.zero negative)
  else if beyondGreatest < d.powerAbove then none
  else match d.exponent with
    | .ofNat n => Binary64.ofRatio negative (d.digits * Nat.pow 10 n) 1
    | .negSucc n => Binary64.ofRatio negative d.digits (Nat.pow 10 (n + 1))

end AnalysisDesk.Number

namespace AnalysisDesk.Toml

open AnalysisDesk.Number (Decimal)

/-! ## Digits -/

/-- Take a digit of a kind. -/
def readDigit (kind : Char → Bool) : Reader Char := do
  match ← Reader.ahead with
  | c :: _ =>
    if kind c then
      Reader.skip 1
      return c
    else Reader.fail
  | [] => Reader.fail

/-- Take one more digit, with an underscore before it or without. -/
def readFurtherDigit (kind : Char → Bool) : Reader (Option Char) := do
  match ← Reader.ahead with
  | '_' :: _ =>
    Reader.skip 1
    return some (← readDigit kind)
  | c :: _ =>
    if kind c then
      Reader.skip 1
      return some c
    else return none
  | [] => return none

/-- Take at least one digit. -/
def readDigits (kind : Char → Bool) : Reader (List Char) := do
  let first ← readDigit kind
  return first :: (← Reader.many (readFurtherDigit kind))

/-- Take a sign if there is one, and say whether it is a minus. -/
def readSign : Reader Bool := do
  match ← Reader.ahead with
  | '-' :: _ =>
    Reader.skip 1
    return true
  | '+' :: _ =>
    Reader.skip 1
    return false
  | _ => return false

/-- Take the digits before a point: a zero alone, or digits that begin with another one. -/
def readWhole : Reader (List Char) := do
  match ← Reader.ahead with
  | '0' :: _ =>
    Reader.skip 1
    return ['0']
  | _ => readDigits Char.isDigit

/-! ## Integers -/

/-- An integer of 64 bits; one that does not fit is a fault where it begins. -/
def integerIn (place : Nat) (n : Int) : Reader Scalar := do
  if -(Int.pow 2 63) ≤ n && n < Int.pow 2 63 then return .integer n
  else Reader.failAt place .grammar

/-- The base that a letter behind a zero marks, and its digits. -/
def baseMarked? : Char → Option (Nat × (Char → Bool))
  | 'x' => some (16, isHexDigit)
  | 'o' => some (8, fun c => '0' ≤ c && c ≤ '7')
  | 'b' => some (2, fun c => c = '0' || c = '1')
  | _ => none

/-- Take an integer in a marked base. -/
def readMarked (base : Nat) (kind : Char → Bool) : Reader Scalar := do
  let place ← Reader.place
  Reader.skip 2
  let digits ← readDigits kind
  integerIn place (digitsValue base digits)

/-! ## Real numbers -/

/-- Take the digits behind a point if there is one. -/
def readFraction : Reader (Option (List Char)) := do
  if ← Reader.take? ['.'] then return some (← readDigits Char.isDigit)
  else return none

/-- Take a power of ten if there is one. -/
def readPower : Reader (Option Int) := do
  match ← Reader.ahead with
  | c :: _ =>
    if c = 'e' || c = 'E' then
      Reader.skip 1
      let negative ← readSign
      let value : Int := digitsValue 10 (← readDigits Char.isDigit)
      return some (if negative then -value else value)
    else return none
  | [] => return none

/-- A real number of decimal digits. Only the negative ones may be infinite for their size. -/
def realOf? (negative : Bool) (whole fraction : List Char) (power : Int) : Option Real :=
  let decimal : Decimal := ⟨digitsValue 10 (whole ++ fraction), power - fraction.length⟩
  match decimal.nearest? negative with
  | some x => some (.finite x)
  | none => if negative then some (.infinite true) else none

/-- Take a decimal number; its place is where its sign stands. -/
def readDecimal (place : Nat) (negative : Bool) : Reader Scalar := do
  let whole ← readWhole
  let fraction ← readFraction
  let power ← readPower
  if fraction.isNone && power.isNone then
    let n : Int := digitsValue 10 whole
    integerIn place (if negative then -n else n)
  else
    match realOf? negative whole (fraction.getD []) (power.getD 0) with
    | some x => return .real x
    | none => Reader.failAt place .grammar

/-- Take a number, which begins with a sign or a digit. -/
def readNumber : Reader Scalar := do
  let place ← Reader.place
  match ← Reader.ahead with
  | '0' :: c :: _ =>
    match baseMarked? c with
    | some (base, kind) => readMarked base kind
    | none => readDecimal place false
  | _ =>
    let negative ← readSign
    if ← Reader.take? ['i', 'n', 'f'] then return .real (.infinite negative)
    else if ← Reader.take? ['n', 'a', 'n'] then return .real .undefined
    else readDecimal place negative

end AnalysisDesk.Toml
