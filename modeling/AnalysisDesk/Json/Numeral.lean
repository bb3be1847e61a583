import AnalysisDesk.Json.Value

/-! # Reading numbers
A written number is split into its digits first; its value is computed from them. Leading digits
are collected while they fit in 64 bits. A number without a point or a power is whole if all of its
digits fit; otherwise the collected digits, as a binary number, are multiplied or divided by the
binary number nearest to a power of ten. -/

namespace AnalysisDesk.Json

open AnalysisDesk.Number (Binary64)

/-- A written power of ten. -/
structure WrittenPower where
  /-- Whether the power is negative. -/
  negative : Bool
  /-- Its digits. -/
  digits : List Nat
  deriving DecidableEq, Repr

/-- A written number, split into its parts. -/
structure WrittenNumber where
  /-- Whether a minus sign stands before it. -/
  negative : Bool
  /-- The digits before the point. -/
  whole : List Nat
  /-- The digits after the point, none if there is no point. -/
  fraction : Option (List Nat)
  /-- The power of ten, none if there is none. -/
  power : Option WrittenPower
  deriving DecidableEq, Repr

/-- The value of a digit. -/
def digitValue (c : Char) : Nat := c.toNat - '0'.toNat

/-- The leading digits of some characters, and the rest. -/
def takeDigits (cs : List Char) : List Nat × List Char :=
  ((cs.takeWhile Char.isDigit).map digitValue, cs.dropWhile Char.isDigit)

/-- A power of ten that takes up all of the characters. -/
def WrittenPower.read? : List Char → Option WrittenPower
  | '+' :: cs => unsigned? false cs
  | '-' :: cs => unsigned? true cs
  | cs => unsigned? false cs
where
  /-- The digits after the sign. -/
  unsigned? (negative : Bool) (cs : List Char) : Option WrittenPower :=
    match takeDigits cs with
    | ([], _) => none
    | (digits, []) => some ⟨negative, digits⟩
    | (_, _ :: _) => none

/-- A power of ten, or nothing at all. -/
def readPower? : List Char → Option (Option WrittenPower)
  | [] => some none
  | c :: cs => if c = 'e' || c = 'E' then (WrittenPower.read? cs).map some else none

/-- What may follow the digits before the point. -/
def readTail? : List Char → Option (Option (List Nat) × Option WrittenPower)
  | '.' :: cs =>
    match takeDigits cs with
    | ([], _) => none
    | (digits, rest) => (readPower? rest).map fun power => (some digits, power)
  | cs => (readPower? cs).map fun power => (none, power)

/-- A number without its sign. -/
def readUnsigned? (negative : Bool) (cs : List Char) : Option WrittenNumber :=
  match takeDigits cs with
  | ([], _) => none
  | (0 :: _ :: _, _) => none
  | (whole, rest) =>
    (readTail? rest).map fun (fraction, power) => ⟨negative, whole, fraction, power⟩

/-- A number that takes up all of the characters. -/
def WrittenNumber.read? : List Char → Option WrittenNumber
  | '-' :: cs => readUnsigned? true cs
  | cs => readUnsigned? false cs

/-! ## Value of a written number -/

/-- The number of values of 64 bits. -/
def word : Nat := Nat.pow 2 64

/-- Digits collected so far, to be multiplied by a power of ten. -/
structure Collected where
  /-- The collected digits as a number below `2 ^ 64`. -/
  digits : Nat
  /-- The power of ten. -/
  power : Int
  /-- Whether a digit no longer fitted. -/
  full : Bool
  deriving DecidableEq, Repr

/-- Add a digit before the point; one that does not fit raises the power. -/
def Collected.addWhole (c : Collected) (digit : Nat) : Collected :=
  if c.full || word ≤ c.digits * 10 + digit then { c with power := c.power + 1, full := true }
  else { c with digits := c.digits * 10 + digit }

/-- Add a digit after the point; once one does not fit, the rest are dropped. -/
def Collected.addFraction (c : Collected) (digit : Nat) : Collected :=
  if c.full || word ≤ c.digits * 10 + digit then { c with full := true }
  else { c with digits := c.digits * 10 + digit, power := c.power - 1 }

/-- The digits of a written number, as far as they fit. -/
def WrittenNumber.collect (n : WrittenNumber) : Collected :=
  let whole := n.whole.foldl Collected.addWhole ⟨0, 0, false⟩
  match n.fraction with
  | none => whole
  | some digits => digits.foldl Collected.addFraction { whole with full := false }

/-- The greatest power of ten among the binary numbers. -/
def greatestPower : Nat := 308

/-- A binary number divided by `10 ^ n`. -/
def dividePower (x : Binary64) (n : Nat) : Option Binary64 := do x.div (← Binary64.powerOfTen n)

/-- A binary number divided by the greatest power of ten a number of times, or until it is zero. -/
def divideGreatest : Nat → Binary64 → Option Binary64
  | 0, x => some x
  | times + 1, x =>
    if x.isZero then some x else do divideGreatest times (← dividePower x greatestPower)

/-- A binary number divided by `10 ^ n`, by the greatest power of ten as long as `n` exceeds it. -/
def divideTen (x : Binary64) (n : Nat) : Option Binary64 := do
  let times := (n - 1) / greatestPower
  dividePower (← divideGreatest times x) (n - times * greatestPower)

/-- A binary number multiplied by `10 ^ n`; none if it becomes too large. -/
def multiplyTen (x : Binary64) (n : Nat) : Option Binary64 :=
  if greatestPower < n then if x.isZero then some x else none
  else (Binary64.powerOfTen n).bind x.mul

/-- Digits times a power of ten as a binary number. -/
def scaled (digits : Nat) (power : Int) : Option Binary64 := do
  let x ← Binary64.ofNat digits
  match power with
  | .ofNat n => multiplyTen x n
  | .negSucc n => divideTen x (n + 1)

/-- The digits of a power of ten as a number; none if it is beyond `2 ^ 31 - 1`. -/
def powerValue (digits : List Nat) : Option Nat :=
  let value := digits.foldl (fun value digit => value * 10 + digit) 0
  if value < Nat.pow 2 31 then some value else none

/-- The binary value of collected digits under a written power; none if it is too large. -/
def Collected.binary (c : Collected) : Option WrittenPower → Option Binary64
  | none => scaled c.digits c.power
  | some power =>
    match powerValue power.digits with
    | some value => scaled c.digits (if power.negative then c.power - value else c.power + value)
    | none => if c.digits = 0 || power.negative then some (.zero false) else none

/-- A binary number under a sign. -/
def signed (negative : Bool) (x : Binary64) : Binary64 := if negative then x.neg else x

/-- The value of a written number; none if it is too large for a binary number. -/
def WrittenNumber.value? (n : WrittenNumber) : Option Numeral :=
  let c := n.collect
  if n.fraction.isNone && n.power.isNone && !c.full then
    if !n.negative then some (.whole c.digits)
    else if c.digits = 0 || Nat.pow 2 63 < c.digits then
      (Binary64.ofNat c.digits).map fun x => .binary x.neg
    else some (.whole (-(c.digits : Int)))
  else (c.binary n.power).map fun x => .binary (signed n.negative x)

end AnalysisDesk.Json
