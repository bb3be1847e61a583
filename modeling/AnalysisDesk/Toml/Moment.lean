import AnalysisDesk.Toml.Amount

/-! # Dates and times in a document
A date, a time of day, or both with an offset from universal time or without. Every part has its
range, and a day must be one of its month. -/

namespace AnalysisDesk.Toml

/-- The digits at the beginning of a text, if there are so many. -/
def leadingDigits? (count : Nat) (rest : List Char) : Option (List Char) :=
  let digits := (rest.take count).takeWhile Char.isDigit
  if digits.length = count then some digits else none

/-- Whether a date begins a text: a year and a dash. -/
def beginsDate (rest : List Char) : Bool :=
  (leadingDigits? 4 rest).isSome && rest[4]? = some '-'

/-- Whether a time of day begins a text: an hour and a colon. -/
def beginsTime (rest : List Char) : Bool :=
  match leadingDigits? 2 rest with
  | some hour => digitsValue 10 hour ≤ 23 && rest[2]? = some ':'
  | none => false

/-- Take two digits whose value lies in a range. -/
def readPair (least greatest : Nat) : Reader Nat := do
  match leadingDigits? 2 (← Reader.ahead) with
  | none => Reader.fail
  | some digits =>
    let value := digitsValue 10 digits
    if least ≤ value && value ≤ greatest then
      Reader.skip 2
      return value
    else Reader.fail

/-- Whether a year has a leap day. -/
def isLeapYear (year : Nat) : Bool := year % 4 = 0 && (year % 100 != 0 || year % 400 = 0)

/-- The number of days of a month. -/
def daysIn (year month : Nat) : Nat :=
  if month = 2 then if isLeapYear year then 29 else 28
  else if month = 4 || month = 6 || month = 9 || month = 11 then 30
  else 31

/-- Take a date. -/
def readDate : Reader Unit := do
  let year := digitsValue 10 ((← Reader.ahead).take 4)
  Reader.skip 5
  let month ← readPair 1 12
  Reader.take ['-']
  let place ← Reader.place
  let day ← readPair 1 31
  if daysIn year month < day then Reader.failAt place .grammar

/-- Take the digits of a fraction of a second if there are any. -/
def skipSecondFraction : Reader Unit := do
  match ← Reader.ahead with
  | '.' :: d :: _ =>
    if d.isDigit then
      Reader.skip 1
      let _ ← Reader.takeWhile Char.isDigit
  | _ => return

/-- Take a time of day; a minute may have a leap second. -/
def readTime : Reader Unit := do
  let _ ← readPair 0 23
  Reader.take [':']
  let _ ← readPair 0 59
  Reader.take [':']
  let _ ← readPair 0 60
  skipSecondFraction

/-- Take an offset from universal time if there is one. -/
def skipOffset : Reader Unit := do
  match ← Reader.ahead with
  | c :: _ =>
    if c = 'Z' || c = 'z' then Reader.skip 1
    else if c = '+' || c = '-' then
      Reader.skip 1
      let _ ← readPair 0 23
      Reader.take [':']
      let _ ← readPair 0 59
  | [] => return

/-- Whether a time of day follows a date. -/
def timeFollows : List Char → Bool
  | c :: rest => (c = 'T' || c = 't' || c = ' ') && beginsTime rest
  | [] => false

/-- Take a date, a time of day, or both. -/
def readMoment : Reader Unit := do
  if beginsDate (← Reader.ahead) then
    readDate
    if timeFollows (← Reader.ahead) then
      Reader.skip 1
      readTime
      skipOffset
  else readTime

/-- Take a date or a time as it is written. -/
def readMomentText : Reader Scalar := do
  let rest ← Reader.ahead
  let before ← Reader.place
  readMoment
  return .moment (rest.take ((← Reader.place) - before))

end AnalysisDesk.Toml
