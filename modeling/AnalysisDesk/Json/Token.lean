import AnalysisDesk.Json.Numeral

/-! # Tokens of a JSON text
A text is cut into tokens one character at a time. Words and numbers run as far as their characters
go and are checked whole; a string is kept as its pieces, because whether a lone half of a surrogate
pair matters depends on whether the string is read at all. -/

namespace AnalysisDesk.Json

/-- A piece of a string: a character, or a unit of sixteen bits written by number. -/
inductive Piece
  | char (c : Char)
  | unit (n : Nat)
  deriving DecidableEq, Repr

/-- A token. -/
inductive Token
  | openArray
  | closeArray
  | openObject
  | closeObject
  | comma
  | colon
  | null
  | bool (b : Bool)
  | number (n : WrittenNumber)
  | text (pieces : List Piece)
  deriving DecidableEq, Repr

/-- What the lexer is in the middle of; characters and pieces read so far are in reverse. -/
inductive Mode
  | between
  | word (letters : List Char)
  | number (characters : List Char)
  | text (pieces : List Piece)
  /-- After a backslash in a string. -/
  | escape (pieces : List Piece)
  /-- Inside a unit written by number, with its value so far and the digits still due. -/
  | unit (pieces : List Piece) (value : Nat) (due : Nat)
  deriving DecidableEq, Repr

/-- The state of the lexer: the tokens so far in reverse, and what it is in the middle of. -/
structure Lexer where
  /-- The tokens so far, the last one first. -/
  tokens : List Token
  /-- What the lexer is in the middle of. -/
  mode : Mode
  deriving DecidableEq, Repr

/-- Whether a character may stand between tokens. -/
def isSpace (c : Char) : Bool := c = ' ' || c = '\t' || c = '\n' || c = '\r'

/-- Whether a character may stand in a number. -/
def isNumberChar (c : Char) : Bool :=
  c.isDigit || c = '+' || c = '-' || c = '.' || c = 'e' || c = 'E'

/-- The token of a word. -/
def wordToken? : List Char → Option Token
  | ['n', 'u', 'l', 'l'] => some .null
  | ['t', 'r', 'u', 'e'] => some (.bool true)
  | ['f', 'a', 'l', 's', 'e'] => some (.bool false)
  | _ => none

/-- The character an escape stands for, but for units written by number. -/
def escaped? (c : Char) : Option Char :=
  if c = '"' then some '"'
  else if c = '\\' then some '\\'
  else if c = '/' then some '/'
  else if c = 'b' then some '\x08'
  else if c = 'f' then some '\x0c'
  else if c = 'n' then some '\n'
  else if c = 'r' then some '\r'
  else if c = 't' then some '\t'
  else none

/-- The value of a digit of base sixteen. -/
def hexValue? (c : Char) : Option Nat :=
  if c.isDigit then some (c.toNat - '0'.toNat)
  else if 'a' ≤ c && c ≤ 'f' then some (c.toNat - 'a'.toNat + 10)
  else if 'A' ≤ c && c ≤ 'F' then some (c.toNat - 'A'.toNat + 10)
  else none

namespace Lexer

/-- The lexer at the start of a text. -/
def start : Lexer := ⟨[], .between⟩

/-- A character that stands between tokens or begins one. -/
def begin (tokens : List Token) (c : Char) : Option Lexer :=
  if isSpace c then some ⟨tokens, .between⟩
  else if c = '[' then some ⟨.openArray :: tokens, .between⟩
  else if c = ']' then some ⟨.closeArray :: tokens, .between⟩
  else if c = '\x7b' then some ⟨.openObject :: tokens, .between⟩
  else if c = '\x7d' then some ⟨.closeObject :: tokens, .between⟩
  else if c = ',' then some ⟨.comma :: tokens, .between⟩
  else if c = ':' then some ⟨.colon :: tokens, .between⟩
  else if c = '"' then some ⟨tokens, .text []⟩
  else if c = '-' || c.isDigit then some ⟨tokens, .number [c]⟩
  else if c.isLower then some ⟨tokens, .word [c]⟩
  else none

/-- The tokens with a word or a number that has ended. -/
def close? (tokens : List Token) : Mode → Option (List Token)
  | .between => some tokens
  | .word letters => (wordToken? letters.reverse).map (· :: tokens)
  | .number characters => (WrittenNumber.read? characters.reverse).map (.number · :: tokens)
  | .text _ | .escape _ | .unit .. => none

/-- The lexer after one more character. -/
def step (lexer : Lexer) (c : Char) : Option Lexer :=
  match lexer.mode with
  | .between => begin lexer.tokens c
  | .word letters =>
    if c.isLower then some ⟨lexer.tokens, .word (c :: letters)⟩
    else do begin (← close? lexer.tokens (.word letters)) c
  | .number characters =>
    if isNumberChar c then some ⟨lexer.tokens, .number (c :: characters)⟩
    else do begin (← close? lexer.tokens (.number characters)) c
  | .text pieces =>
    if c = '"' then some ⟨.text pieces.reverse :: lexer.tokens, .between⟩
    else if c = '\\' then some ⟨lexer.tokens, .escape pieces⟩
    else if c.toNat < 0x20 then none
    else some ⟨lexer.tokens, .text (.char c :: pieces)⟩
  | .escape pieces =>
    if c = 'u' then some ⟨lexer.tokens, .unit pieces 0 4⟩
    else (escaped? c).map fun c => ⟨lexer.tokens, .text (.char c :: pieces)⟩
  | .unit pieces value due => do
    let value := value * 16 + (← hexValue? c)
    if due ≤ 1 then some ⟨lexer.tokens, .text (.unit value :: pieces)⟩
    else some ⟨lexer.tokens, .unit pieces value (due - 1)⟩

/-- The tokens at the end of the text. -/
def finish? (lexer : Lexer) : Option (List Token) :=
  (close? lexer.tokens lexer.mode).map List.reverse

end Lexer

/-- The tokens of a text. -/
def tokens? (text : List Char) : Option (List Token) := do
  (← text.foldlM Lexer.step .start).finish?

end AnalysisDesk.Json
