import AnalysisDesk.Json.Tree

/-! # Reading JSON values
A tree becomes a value if its containers are nested at most as deep as allowed, its numbers are in
range and its strings are made of whole characters. -/

namespace AnalysisDesk.Json

/-- How deep containers may be nested. -/
def depthLimit : Nat := 127

/-- The first half of a surrogate pair. -/
def isHighUnit (n : Nat) : Bool := 0xD800 ≤ n && n ≤ 0xDBFF

/-- The second half of a surrogate pair. -/
def isLowUnit (n : Nat) : Bool := 0xDC00 ≤ n && n ≤ 0xDFFF

/-- The character of a surrogate pair. -/
def pairedChar (high low : Nat) : Char :=
  Char.ofNat (0x10000 + (high - 0xD800) * 0x400 + (low - 0xDC00))

/-- The characters of the pieces of a string, unless half of a surrogate pair stands alone. -/
def decodePieces? : List Piece → Option (List Char)
  | [] => some []
  | .char c :: rest => (decodePieces? rest).map (c :: ·)
  | .unit high :: .unit low :: rest =>
    if isHighUnit high then
      if isLowUnit low then (decodePieces? rest).map (pairedChar high low :: ·) else none
    else if isLowUnit high then none
    else (decodePieces? (.unit low :: rest)).map (Char.ofNat high :: ·)
  | .unit n :: rest =>
    if isHighUnit n || isLowUnit n then none else (decodePieces? rest).map (Char.ofNat n :: ·)

/-- The text of the pieces of a string. -/
def decodeText? (pieces : List Piece) : Option String :=
  (decodePieces? pieces).map String.ofList

mutual

/-- The value of a tree with at most `depth` containers around anything in it. -/
def Tree.value? (depth : Nat) : Tree → Option Value
  | .null => some .null
  | .bool b => some (.bool b)
  | .number n => n.value?.map .number
  | .text pieces => (decodeText? pieces).map .text
  | .array items =>
    match depth with
    | 0 => none
    | depth + 1 => (itemValues? depth items).map .array
  | .object members =>
    match depth with
    | 0 => none
    | depth + 1 => (memberValues? depth members).map fun members => .object (orderMembers members)

/-- The values of the items of an array. -/
def itemValues? (depth : Nat) : List Tree → Option (List Value)
  | [] => some []
  | item :: items => do return (← item.value? depth) :: (← itemValues? depth items)

/-- The keys and values of the members of an object, in the order written. -/
def memberValues? (depth : Nat) : List (List Piece × Tree) → Option (List (String × Value))
  | [] => some []
  | (key, tree) :: members => do
    return (← decodeText? key, ← tree.value? depth) :: (← memberValues? depth members)

end

/-- The value of a text. -/
def Value.read? (text : String) : Option Value := do
  (← Tree.read? text.toList).value? depthLimit

end AnalysisDesk.Json
