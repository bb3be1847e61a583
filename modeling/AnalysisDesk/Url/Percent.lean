import AnalysisDesk.Text.Utf8

/-! # Percent encoding
In an address, a character that may not stand for itself is written as its bytes in UTF-8, each as a
percent sign and two digits. What may stand for itself depends on the part of the address. -/

namespace AnalysisDesk.Url

open AnalysisDesk.Text (bytes)

/-! ## Sets of characters -/

/-- The characters that never stand for themselves: controls, and all beyond ASCII. -/
def isControl (c : Char) : Bool := c.toNat < 0x20 || 0x7E < c.toNat

/-- The characters encoded in a fragment. -/
def isFragmentEncoded (c : Char) : Bool :=
  isControl c || [' ', '"', '<', '>', '\x60'].contains c

/-- The characters encoded in a query; in the query of a web scheme the single quote too. -/
def isQueryEncoded (web : Bool) (c : Char) : Bool :=
  isControl c || [' ', '"', '#', '<', '>'].contains c || (web && c = '\'')

/-- The characters encoded in a path. -/
def isPathEncoded (c : Char) : Bool :=
  isFragmentEncoded c || ['#', '?', '\x7b', '\x7d'].contains c

/-- The characters encoded in a user's name or password. -/
def isUserEncoded (c : Char) : Bool :=
  isPathEncoded c || ['/', ':', ';', '=', '@', '[', '\\', ']', '^', '|'].contains c

/-! ## Encoding and decoding -/

/-- A digit of base sixteen, upper case. -/
def hexDigit (n : Nat) : Char :=
  if n < 10 then Char.ofNat ('0'.toNat + n) else Char.ofNat ('A'.toNat + (n - 10))

/-- A byte as a percent sign and two digits. -/
def encodeByte (b : UInt8) : List Char := ['%', hexDigit (b.toNat / 16), hexDigit (b.toNat % 16)]

/-- A text with the characters of a set encoded. -/
def encode (encoded : Char → Bool) (text : List Char) : List Char :=
  text.flatMap fun c => if encoded c then (bytes [c]).flatMap encodeByte else [c]

@[simp] theorem encode_nil (encoded : Char → Bool) : encode encoded [] = [] := rfl

/-- The value of a digit of base sixteen. -/
def hexValue? (c : Char) : Option Nat :=
  if c.isDigit then some (c.toNat - '0'.toNat)
  else if 'a' ≤ c && c ≤ 'f' then some (c.toNat - 'a'.toNat + 10)
  else if 'A' ≤ c && c ≤ 'F' then some (c.toNat - 'A'.toNat + 10)
  else none

/-- The byte that two digits stand for. -/
def byte? (high low : Char) : Option UInt8 := do
  return (16 * (← hexValue? high) + (← hexValue? low)).toUInt8

/-- The bytes of a text, with encoded bytes decoded; a percent sign without digits stands for
itself. -/
def decodeBytes : List Char → List UInt8
  | '%' :: high :: low :: rest =>
    match byte? high low with
    | some b => b :: decodeBytes rest
    | none => bytes ['%'] ++ decodeBytes (high :: low :: rest)
  | c :: rest => bytes [c] ++ decodeBytes rest
  | [] => []

/-- The text with encoded bytes decoded, if these make a text. -/
def decode? (text : List Char) : Option (List Char) :=
  (String.fromUTF8? ⟨(decodeBytes text).toArray⟩).map String.toList

end AnalysisDesk.Url
