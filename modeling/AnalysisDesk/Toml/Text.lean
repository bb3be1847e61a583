import AnalysisDesk.Toml.Cursor

/-! # Texts in a document
A text stands between quotes, or between three quotes if it runs over lines. Between double quotes a
backslash begins an escape; between single quotes everything stands for itself. A newline in a text
over lines is one line feed however it is written, and the one after the opening quotes is none. -/

namespace AnalysisDesk.Toml

/-! ## Escapes -/

/-- Whether a character is a digit of base sixteen. -/
def isHexDigit (c : Char) : Bool :=
  c.isDigit || ('a' ≤ c && c ≤ 'f') || ('A' ≤ c && c ≤ 'F')

/-- The value of a digit, in any base up to sixteen. -/
def digitValue (c : Char) : Nat :=
  if c.isDigit then c.toNat - '0'.toNat
  else if 'a' ≤ c then c.toNat - 'a'.toNat + 10
  else c.toNat - 'A'.toNat + 10

/-- The number that digits stand for in a base. -/
def digitsValue (base : Nat) (digits : List Char) : Nat :=
  digits.foldl (fun value c => value * base + digitValue c) 0

/-- The character with a code, which may not be half of a surrogate pair. -/
def charOfCode? (code : Nat) : Option Char :=
  if h : code.isValidChar then some (Char.ofNatAux code h) else none

/-- Take the character whose code is written in some number of digits of base sixteen. -/
def readCode (digits : Nat) : Reader Char := do
  let written := ((← Reader.ahead).take digits).takeWhile isHexDigit
  if written.length < digits then Reader.fail
  match charOfCode? (digitsValue 16 written) with
  | none => Reader.fail
  | some c =>
    Reader.skip digits
    return c

/-- The character that a letter after a backslash stands for. -/
def escaped? : Char → Option Char
  | 'b' => some '\x08'
  | 'f' => some '\x0c'
  | 'n' => some '\n'
  | 'r' => some '\r'
  | 't' => some '\t'
  | '"' => some '"'
  | '\\' => some '\\'
  | _ => none

/-- Take the escape that follows a backslash. The fault of an unknown one lies behind its letter. -/
def readEscape (c : Char) : Reader Char := do
  if c = 'u' then
    Reader.skip 2
    readCode 4
  else if c = 'U' then
    Reader.skip 2
    readCode 8
  else
    match escaped? c with
    | some e =>
      Reader.skip 2
      return e
    | none =>
      Reader.skip (if c.utf8Size = 1 then 2 else 1)
      Reader.fail

/-! ## Texts of one line -/

/-- Take one character of a text between double quotes. -/
def readBasicChar : Reader (Option Char) := do
  match ← Reader.ahead with
  | '\\' :: c :: _ => return some (← readEscape c)
  | c :: _ =>
    if isPrinted c && c != '"' && c != '\\' then
      Reader.skip 1
      return some c
    else return none
  | [] => return none

/-- Take a text between double quotes. -/
def readBasicText : Reader (List Char) := do
  Reader.take ['"']
  let text ← Reader.many readBasicChar
  Reader.take ['"']
  return text

/-- Take a text between single quotes. -/
def readLiteralText : Reader (List Char) := do
  Reader.take ['\'']
  let text ← Reader.takeWhile fun c => isPrinted c && c != '\''
  Reader.take ['\'']
  return text

/-! ## Texts over lines -/

/-- Whether a backslash ends its line: only blanks stand between it and the newline. -/
def continuesLine (rest : List Char) : Bool := newlineLength (rest.dropWhile isSpace) != 0

/-- Take the blanks and newlines that a backslash at the end of a line removes. -/
def skipBreak : Reader Unit := do
  let _ ← Reader.many do
    match ← Reader.ahead with
    | [] => return none
    | c :: rest =>
      if isSpace c then
        skipSpaces
        return some ()
      else
        let length := newlineLength (c :: rest)
        if length = 0 then return none
        Reader.skip length
        return some ()

/-- The length of the run of quotes at the beginning of a text. -/
def quoteRun (quote : Char) (rest : List Char) : Nat := (rest.takeWhile (· = quote)).length

/-- Whether what stands behind a run of quotes goes on with the text. -/
def goesOn : List Char → Bool
  | [] => false
  | ['\\'] => false
  | c :: rest => isPrinted c || newlineLength (c :: rest) != 0

/-- Take a character or a newline that stands for itself. -/
def readPlain : Reader (Option (List Char)) := do
  let rest ← Reader.ahead
  let length := newlineLength rest
  if length != 0 then
    Reader.skip length
    return some ['\n']
  else match rest with
    | [] => return none
    | c :: _ =>
      if isPrinted c then
        Reader.skip 1
        return some [c]
      else return none

/-- Take a break or an escape, which begins with a backslash. -/
def readBackslash (rest : List Char) : Reader (Option (List Char)) := do
  if continuesLine rest then
    Reader.skip 1
    skipBreak
    return some []
  else match rest with
    | [] => return none
    | c :: _ => return some [← readEscape c]

/-- Take one or two quotes that the text goes on behind. -/
def readQuotes (quote : Char) (next : List Char → Reader Unit) :
    Reader (Option (List Char)) := do
  let rest ← Reader.ahead
  let count := quoteRun quote rest
  if 3 ≤ count || !goesOn (rest.drop count) then return none
  Reader.skip count
  next (rest.drop count)
  return some (List.replicate count quote)

/-- Take a piece of a text over lines between double quotes. -/
def readBasicPiece : Reader (Option (List Char)) := do
  match ← Reader.ahead with
  | '\\' :: rest => readBackslash rest
  | '"' :: _ => readQuotes '"' fun rest =>
    match rest with
    | '\\' :: rest => Reader.expectAhead (readBackslash rest)
    | _ => return
  | _ => readPlain

/-- Take a piece of a text over lines between single quotes. -/
def readLiteralPiece : Reader (Option (List Char)) := do
  match ← Reader.ahead with
  | '\'' :: _ => readQuotes '\'' fun _ => return
  | _ => readPlain

/-- Take a text over lines between two runs of three quotes. Of a longer run at its end, one or two
quotes belong to the text. -/
def readLongText (quote : Char) (piece : Reader (Option (List Char))) :
    Reader (List Char) := do
  let quotes := List.replicate 3 quote
  Reader.take quotes
  Reader.skip (newlineLength (← Reader.ahead))
  let pieces ← Reader.many piece
  let inner := min 2 (quoteRun quote (← Reader.ahead) - 3)
  Reader.skip inner
  Reader.take quotes
  return pieces.flatten ++ List.replicate inner quote

/-- Take a text, which begins with a quote. -/
def readText : Reader (List Char) := do
  match ← Reader.ahead with
  | '"' :: '"' :: '"' :: _ => readLongText '"' readBasicPiece
  | '\'' :: '\'' :: '\'' :: _ => readLongText '\'' readLiteralPiece
  | '\'' :: _ => readLiteralText
  | _ => readBasicText

end AnalysisDesk.Toml
