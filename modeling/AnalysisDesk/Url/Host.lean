import AnalysisDesk.Number.Layout
import AnalysisDesk.Url.Percent
import AnalysisDesk.Url.Punycode

/-! # Hosts
The host of an address is a name or a number. A name whose last part is a number must be an address
of four bytes; an address of eight groups stands between brackets. How names are written in ASCII is
left open, for it takes tables of all scripts. What is settled is how names are written that are in
ASCII already and have no label that stands for another one. -/

namespace AnalysisDesk.Url

/-- A host. -/
inductive Host
  | name (text : List Char)
  /-- An address of 32 bits. -/
  | four (value : Nat)
  /-- An address of eight groups of 16 bits. -/
  | six (groups : List Nat)
  deriving DecidableEq, Repr

/-- Why an address cannot be used. -/
inductive Fault
  /-- It has no scheme. -/
  | relative
  /-- It has no host. -/
  | emptyHost
  /-- What stands behind the host is no number, or too large. -/
  | number
  /-- Its host is a number, but no address of four bytes. -/
  | four
  /-- Its host stands between brackets, but is no address of eight groups. -/
  | six
  /-- Its host has a character that no name has. -/
  | name
  deriving DecidableEq, Repr

/-- The pieces of a text between separators, one more than there are. -/
def splitAt (separator : Char → Bool) : List Char → List (List Char)
  | [] => [[]]
  | c :: rest =>
    match splitAt separator rest with
    | [] => [[c]]
    | piece :: pieces => if separator c then [] :: piece :: pieces else (c :: piece) :: pieces

/-! ## Addresses of four bytes -/

/-- The number that digits stand for, if they are digits of the base. -/
def numberIn? (base : Nat) (digits : List Char) : Option Nat :=
  digits.foldlM
    (fun value c => do
      let digit ← hexValue? c
      if digit < base then return value * base + digit else none)
    0

/-- The number of a part: in base sixteen behind `0x`, in base eight behind another zero. -/
def partNumber? : List Char → Option Nat
  | [] => none
  | '0' :: c :: rest =>
    if c = 'x' || c = 'X' then numberIn? 16 rest else numberIn? 8 (c :: rest)
  | digits => numberIn? 10 digits

/-- The parts of a name between dots, without an empty one at the end. -/
def partsOf (name : List Char) : List (List Char) :=
  let parts := splitAt (· = '.') name
  if parts.getLast? = some [] then parts.dropLast else parts

/-- Whether the last part of a name is a number. -/
def endsInNumber (name : List Char) : Bool :=
  match (partsOf name).getLast? with
  | none => false
  | some last => (!last.isEmpty && last.all Char.isDigit) || (partNumber? last).isSome

/-- The address of at most four numbers: each but the last is one byte, the last fills the rest. -/
def fourOf? (numbers : List Nat) : Option Nat :=
  match numbers.reverse with
  | [] => none
  | last :: before =>
    let rest := Nat.pow 256 (4 - before.length)
    if before.length ≤ 3 && before.all (· ≤ 255) && last < rest then
      some (before.reverse.foldl (fun value n => value * 256 + n) 0 * rest + last)
    else none

/-- The address of four bytes that a name stands for. -/
def readFour? (name : List Char) : Option Nat := do fourOf? (← (partsOf name).mapM partNumber?)

/-- An address of four bytes, byte by byte. -/
def writeFour (value : Nat) : List Char :=
  let byte (place : Nat) : List Char := Number.decimalDigits (value / Nat.pow 256 place % 256)
  byte 3 ++ '.' :: byte 2 ++ '.' :: byte 1 ++ '.' :: byte 0

/-! ## Addresses of eight groups -/

/-- A group of up to four digits. -/
def group? (digits : List Char) : Option Nat :=
  if digits.isEmpty || 4 < digits.length then none else numberIn? 16 digits

/-- A byte in base ten without leading zeros. -/
def plainByte? (digits : List Char) : Option Nat :=
  match digits with
  | [] => none
  | '0' :: _ :: _ => none
  | _ => do
    let value ← numberIn? 10 digits
    if value ≤ 255 then return value else none

/-- The two groups of an address of four bytes at the end. -/
def groupsOfFour? (text : List Char) : Option (List Nat) := do
  match ← (splitAt (· = '.') text).mapM plainByte? with
  | [a, b, c, d] => return [256 * a + b, 256 * c + d]
  | _ => none

/-- The groups of a text between colons; the last may be an address of four bytes. -/
def groups? (text : List Char) : Option (List Nat) :=
  if text.isEmpty then some []
  else
    let pieces := splitAt (· = ':') text
    let last := pieces.getLast?.getD []
    if last.contains '.' then do
      return (← pieces.dropLast.mapM group?) ++ (← groupsOfFour? last)
    else pieces.mapM group?

/-- A text cut at its first two colons in a row. -/
def cutAtGap : List Char → Option (List Char × List Char)
  | ':' :: ':' :: rest => some ([], rest)
  | c :: rest => (cutAtGap rest).map fun (before, behind) => (c :: before, behind)
  | [] => none

/-- The eight groups of an address; two colons in a row stand for groups of zeros. -/
def readSix? (text : List Char) : Option (List Nat) := do
  match cutAtGap text with
  | none =>
    let groups ← groups? text
    if groups.length = 8 then return groups else none
  | some (before, behind) =>
    let (left, right) := (← groups? before, ← groups? behind)
    if left.length + right.length ≤ 7 then
      return left ++ List.replicate (8 - left.length - right.length) 0 ++ right
    else none

/-- Where the longest run of zeros begins and how long it is, the first of the longest ones. -/
def longestZeros (groups : List Nat) : Nat × Nat :=
  (List.range groups.length).foldl
    (fun best start =>
      let run := ((groups.drop start).takeWhile (· = 0)).length
      if best.2 < run then (start, run) else best)
    (0, 0)

/-- Groups between colons. -/
def writeGroups (groups : List Nat) : List Char :=
  [':'].intercalate (groups.map (Nat.toDigits 16))

/-- An address of eight groups, its longest run of zeros left out if it is longer than one. -/
def writeSix (groups : List Nat) : List Char :=
  let (start, run) := longestZeros groups
  if run < 2 then writeGroups groups
  else writeGroups (groups.take start) ++ ':' :: ':' :: writeGroups (groups.drop (start + run))

/-! ## Names in ASCII -/

/-- Whether a character may not stand in a host of any scheme. -/
def isHostBreak (c : Char) : Bool :=
  ['\x00', '\t', '\n', '\r', ' ', '#', '/', ':', '<', '>', '?', '@', '[', '\\', ']', '^',
    '|'].contains c

/-- Whether a character may not stand in a name of the web. -/
def isNameBreak (c : Char) : Bool :=
  isHostBreak c || c = '%' || c.toNat ≤ 0x1F || c.toNat = 0x7F

/-- How names are written in ASCII; some names cannot be. -/
abbrev NameCoding := List Char → Option (List Char)

/-- What marks a label as the encoding of one beyond ASCII. -/
def mark : List Char := "xn--".toList

/-- **A name without marks**, in ASCII. -/
structure Unmarked (name : List Char) : Prop where
  /-- Its characters are in ASCII. -/
  ascii : ∀ c ∈ name, c.toNat < 0x80
  /-- None of its labels stands for another one. -/
  labels : ∀ label ∈ splitAt (· = '.') name, ¬ mark <+: label.map Char.toLower

/-- **A regular way to write names in ASCII** puts a name without marks in small letters, and does
nothing else to it. At most it refuses a name with a character that none may have. -/
structure NameCoding.Regular (coding : NameCoding) : Prop where
  small : ∀ name, Unmarked name → coding name = some (name.map Char.toLower) ∨
    coding name = none ∧ name.any isNameBreak = true

/-- A name in small letters of ASCII, with every label encoded that has characters beyond it. -/
def asciiName (name : List Char) : List Char :=
  ['.'].intercalate ((splitAt (· = '.') (name.map Char.toLower)).map Punycode.label)

/-- Names written without any tables: characters beyond ASCII are taken as they are, and marked
labels are not decoded to be checked. -/
def plainCoding : NameCoding := fun name => some (asciiName name)

/-! ## Hosts -/

/-- The host between brackets that a text stands for. -/
def readBracketed (text : List Char) : Except Fault Host :=
  match text.getLast?, readSix? text.dropLast with
  | some ']', some groups => .ok (.six groups)
  | _, _ => .error .six

/-- The host that a name in ASCII stands for. -/
def readName (small : List Char) : Except Fault Host :=
  if small.isEmpty then .error .emptyHost
  else if small.any isNameBreak then .error .name
  else if endsInNumber small then
    match readFour? small with
    | some value => .ok (.four value)
    | none => .error .four
  else .ok (.name small)

/-- The host of a web scheme. -/
def Host.readWeb (coding : NameCoding) : List Char → Except Fault Host
  | '[' :: rest => readBracketed rest
  | text =>
    match (decode? text).bind coding with
    | none => .error .name
    | some small => readName small

/-- The host of any other scheme. -/
def Host.readOther : List Char → Except Fault Host
  | '[' :: rest => readBracketed rest
  | text =>
    if text.any isHostBreak then .error .name else .ok (.name (encode isControl text))

/-- A host as it stands in an address. -/
def Host.write : Host → List Char
  | .name text => text
  | .four value => writeFour value
  | .six groups => '[' :: writeSix groups ++ [']']

end AnalysisDesk.Url
