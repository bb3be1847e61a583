import AnalysisDesk.Json.Value

/-! # Writing JSON
Two layouts of a value. The compact one has no blanks at all; the indented one puts every item and
member on a line of its own, two blanks deeper than its container, and leaves empty containers on
one line. Strings escape quotes, backslashes and controls only. -/

namespace AnalysisDesk.Json

open AnalysisDesk.Number (Layout signedDigits)

/-- A digit of base sixteen, lower case. -/
def hexDigit (n : Nat) : Char := Nat.digitChar n

/-- One character inside a string. -/
def escapeChar (c : Char) : List Char :=
  if c = '"' then ['\\', '"']
  else if c = '\\' then ['\\', '\\']
  else if c = '\x08' then ['\\', 'b']
  else if c = '\x0c' then ['\\', 'f']
  else if c = '\n' then ['\\', 'n']
  else if c = '\r' then ['\\', 'r']
  else if c = '\t' then ['\\', 't']
  else if c.toNat < 0x20 then
    ['\\', 'u', '0', '0', hexDigit (c.toNat / 16), hexDigit (c.toNat % 16)]
  else [c]

/-- The characters inside the quotes of a string. -/
def escapeText (s : List Char) : List Char := s.flatMap escapeChar

/-- A string with its quotes. -/
def textLiteral (s : List Char) : List Char := '"' :: (escapeText s ++ ['"'])

/-- A number; a binary one always shows a point or a power of ten. -/
def Numeral.write : Numeral → List Char
  | .whole n => signedDigits n
  | .binary x => x.write .compact

/-- The word for a truth value. -/
def boolWord (b : Bool) : List Char := if b then ['t', 'r', 'u', 'e'] else ['f', 'a', 'l', 's', 'e']

/-- The word for null. -/
def nullWord : List Char := ['n', 'u', 'l', 'l']

@[simp] theorem escapeText_nil : escapeText [] = [] := rfl

@[simp] theorem escapeText_cons (c : Char) (s : List Char) :
    escapeText (c :: s) = escapeChar c ++ escapeText s := rfl

/-! ## Compact layout -/

mutual

/-- A value without blanks. -/
def Value.compact : Value → List Char
  | .null => nullWord
  | .bool b => boolWord b
  | .number n => n.write
  | .text s => textLiteral s.toList
  | .array [] => ['[', ']']
  | .array (item :: items) => '[' :: (item.compact ++ compactItems items)
  | .object [] => ['\x7b', '\x7d']
  | .object ((key, value) :: members) =>
    '\x7b' :: (textLiteral key.toList ++ ':' :: (value.compact ++ compactMembers members))

/-- The items after the first, each after a comma, and the end of the array. -/
def compactItems : List Value → List Char
  | [] => [']']
  | item :: items => ',' :: (item.compact ++ compactItems items)

/-- The members after the first, each after a comma, and the end of the object. -/
def compactMembers : List (String × Value) → List Char
  | [] => ['\x7d']
  | (key, value) :: members =>
    ',' :: (textLiteral key.toList ++ ':' :: (value.compact ++ compactMembers members))

end

/-! ## Indented layout -/

/-- A new line at a depth. -/
def newLine (depth : Nat) : List Char := '\n' :: List.replicate (2 * depth) ' '

mutual

/-- A value whose own line is at a depth. -/
def Value.indented (depth : Nat) : Value → List Char
  | .null => nullWord
  | .bool b => boolWord b
  | .number n => n.write
  | .text s => textLiteral s.toList
  | .array [] => ['[', ']']
  | .array (item :: items) =>
    '[' :: (newLine (depth + 1) ++ (item.indented (depth + 1) ++ indentedItems depth items))
  | .object [] => ['\x7b', '\x7d']
  | .object ((key, value) :: members) =>
    '\x7b' :: (newLine (depth + 1) ++ (textLiteral key.toList ++ ':' :: ' ' ::
      (value.indented (depth + 1) ++ indentedMembers depth members)))

/-- The items after the first and the end of an array whose own line is at a depth. -/
def indentedItems (depth : Nat) : List Value → List Char
  | [] => newLine depth ++ [']']
  | item :: items =>
    ',' :: (newLine (depth + 1) ++ (item.indented (depth + 1) ++ indentedItems depth items))

/-- The members after the first and the end of an object whose own line is at a depth. -/
def indentedMembers (depth : Nat) : List (String × Value) → List Char
  | [] => newLine depth ++ ['\x7d']
  | (key, value) :: members =>
    ',' :: (newLine (depth + 1) ++ (textLiteral key.toList ++ ':' :: ' ' ::
      (value.indented (depth + 1) ++ indentedMembers depth members)))

end

/-- A value as one line of text. -/
def Value.toCompact (v : Value) : String := String.ofList v.compact

/-- A value as indented text. -/
def Value.toIndented (v : Value) : String := String.ofList (v.indented 0)

end AnalysisDesk.Json
