import AnalysisDesk.Toml.Tree

/-! # Reading from a cursor
A cursor is a place in a document and the text from there on. A reader takes something from the
cursor or stops with a fault at a place. Everything is decided by the characters ahead, so no
reader ever has to go back. -/

namespace AnalysisDesk.Toml

/-- Why a document cannot be read. -/
inductive Cause
  /-- The text breaks the grammar, or a number is too large. -/
  | grammar
  /-- A key stands twice in a table; the table's name is known for a table with a header. -/
  | duplicate (key : String) (table : Option (List String))
  /-- A header or a dotted key adds to something that is closed or no table. -/
  | closed
  deriving DecidableEq, Repr

/-- Why and where a document cannot be read. -/
structure Fault where
  /-- The stretch that is at fault. -/
  span : Span
  /-- Why. -/
  cause : Cause
  deriving DecidableEq, Repr

/-- A place in a document and the text from there on. -/
structure Cursor where
  /-- The characters before. -/
  place : Nat
  /-- The characters ahead. -/
  rest : List Char
  deriving DecidableEq, Repr

/-- The cursor at the beginning of a text. -/
def Cursor.start (text : List Char) : Cursor := ⟨0, text⟩

/-- The cursor further on by some characters. -/
def Cursor.advance (cursor : Cursor) (count : Nat) : Cursor :=
  ⟨cursor.place + count, cursor.rest.drop count⟩

/-- A way to take something from a cursor. -/
abbrev Reader := StateT Cursor (Except Fault)

namespace Reader

/-- The text ahead. -/
def ahead : Reader (List Char) := do return (← get).rest

/-- The place of the cursor. -/
def place : Reader Nat := do return (← get).place

/-- Stop with a cause at a place. -/
def failAt {α : Type} (place : Nat) (cause : Cause) : Reader α :=
  throw ⟨.single place, cause⟩

/-- Stop at the cursor because the grammar is broken there. -/
def fail {α : Type} : Reader α := do failAt (← place) .grammar

/-- Take some characters. -/
def skip (count : Nat) : Reader Unit := modify (·.advance count)

/-- Take the characters of a text if they are ahead, and say whether they were. -/
def take? (wanted : List Char) : Reader Bool := do
  if wanted.isPrefixOf (← ahead) then
    skip wanted.length
    return true
  else return false

/-- Take the characters of a text, which must be ahead. -/
def take (wanted : List Char) : Reader Unit := do
  unless ← take? wanted do fail

/-- Take characters of a kind as far as they go. -/
def takeWhile (kind : Char → Bool) : Reader (List Char) := do
  let taken := (← ahead).takeWhile kind
  skip taken.length
  return taken

/-- Take things as far as they go, at most as many as a number, after those found so far in
reverse. -/
def manyFrom {α : Type} (item : Reader (Option α)) : Nat → List α → Reader (List α)
  | 0, found => return found.reverse
  | fuel + 1, found => do
    match ← item with
    | none => return found.reverse
    | some a => manyFrom item fuel (a :: found)

/-- Take things as far as they go; each takes at least a character. -/
def many {α : Type} (item : Reader (Option α)) : Reader (List α) := do
  manyFrom item (← ahead).length []

/-- What a reader takes, and the stretch it takes it from. -/
def spanned {α : Type} (reader : Reader α) : Reader (α × Span) := do
  let first ← place
  let a ← reader
  return (a, ⟨first, ← place⟩)

/-- Make sure of something ahead without taking it; its fault lies at the cursor. -/
def expectAhead {α : Type} (reader : Reader α) : Reader Unit := do
  let cursor ← get
  match reader cursor with
  | .ok _ => return
  | .error fault => failAt cursor.place fault.cause

end Reader

/-! ## Blanks, comments and line ends -/

/-- Whether a character may stand between the parts of a line. -/
def isSpace (c : Char) : Bool := c = ' ' || c = '\t'

/-- Whether a character may stand in a text or a comment: no control but the tab. -/
def isPrinted (c : Char) : Bool := c = '\t' || (0x20 ≤ c.toNat && c.toNat != 0x7F)

/-- The length of the newline at the beginning of a text, zero if there is none. -/
def newlineLength : List Char → Nat
  | '\n' :: _ => 1
  | '\r' :: '\n' :: _ => 2
  | _ => 0

/-- Take blanks. -/
def skipSpaces : Reader Unit := do
  let _ ← Reader.takeWhile isSpace

/-- Take a comment if there is one. -/
def skipComment : Reader Unit := do
  if ← Reader.take? ['#'] then
    let _ ← Reader.takeWhile isPrinted

/-- Take the end of a line, with blanks and a comment before it; the end of the text is one. -/
def lineEnd : Reader Unit := do
  skipSpaces
  skipComment
  let rest ← Reader.ahead
  if rest.isEmpty then return
  let length := newlineLength rest
  if length = 0 then Reader.fail else Reader.skip length

/-- Take a blank, a comment or a newline. -/
def skipGapPart : Reader (Option Unit) := do
  match ← Reader.ahead with
  | [] => return none
  | c :: rest =>
    if isSpace c then
      skipSpaces
      return some ()
    else if c = '#' then
      skipComment
      return some ()
    else
      let length := newlineLength (c :: rest)
      if length = 0 then return none
      Reader.skip length
      return some ()

/-- Take blanks, comments and newlines. -/
def skipGap : Reader Unit := do
  let _ ← Reader.many skipGapPart

end AnalysisDesk.Toml
