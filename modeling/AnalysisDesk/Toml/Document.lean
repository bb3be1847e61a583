import AnalysisDesk.Toml.Growth
import AnalysisDesk.Toml.Moment

/-! # TOML documents
A document is read line by line into its table. Values may hold values, down to a limit of nesting
that also bounds the dots of a key. The first line that breaks a rule is the fault of the whole. -/

namespace AnalysisDesk.Toml

/-- One more than the greatest depth of nesting, and than the greatest number of keys between
dots. -/
def nestingLimit : Nat := 80

/-! ## Keys -/

/-- Whether a character may stand in a key without quotes. -/
def isBare (c : Char) : Bool := c.isAlphanum || c = '_' || c = '-'

/-- Whether a key begins a text. -/
def beginsKey : List Char → Bool
  | c :: _ => isBare c || c = '"' || c = '\''
  | [] => false

/-- Take the name of a key. -/
def readName : Reader (List Char) := do
  match ← Reader.ahead with
  | '"' :: _ => readBasicText
  | '\'' :: _ => readLiteralText
  | _ =>
    let name ← Reader.takeWhile isBare
    if name.isEmpty then Reader.fail
    return name

/-- Take a key. -/
def readKey : Reader Key := do
  let (name, span) ← Reader.spanned readName
  return ⟨String.ofList name, span⟩

/-- Keys between dots: those it passes through, and the last one. -/
structure KeyPath where
  /-- The keys before the last dot. -/
  path : List Key
  /-- The key behind it. -/
  key : Key
  deriving DecidableEq, Repr

/-- Take a dot and the key behind it. -/
def readFurtherKey : Reader (Option Key) := do
  match ← Reader.ahead with
  | '.' :: rest =>
    if !beginsKey (rest.dropWhile isSpace) then return none
    Reader.skip 1
    skipSpaces
    let key ← readKey
    skipSpaces
    return some key
  | _ => return none

/-- Take keys between dots, with blanks around each. -/
def readKeyPath : Reader KeyPath := do
  let place ← Reader.place
  skipSpaces
  let first ← readKey
  skipSpaces
  let more ← Reader.many readFurtherKey
  if nestingLimit ≤ more.length + 1 then Reader.failAt place .grammar
  return ⟨(first :: more).dropLast, more.getLast?.getD first⟩

/-! ## Values -/

/-- Whether a value begins a text. -/
def beginsValue : List Char → Bool
  | [] => false
  | c :: rest =>
    if c = '+' || c = '-' then
      rest.head?.any Char.isDigit || ['i', 'n', 'f'].isPrefixOf rest ||
        ['n', 'a', 'n'].isPrefixOf rest
    else c.isDigit || ['"', '\'', '[', '\x7b', 't', 'f', 'i', 'n'].contains c

/-- Take things as long as one begins, a comma after each but perhaps the last, after those found so
far in reverse. The gap takes what may stand before and behind a thing. -/
def readListFrom {α : Type} (gap : Reader Unit) (begins : List Char → Bool) (item : Reader α)
    (comma : Reader Bool) : Nat → List α → Reader (List α)
  | 0, found => return found.reverse
  | fuel + 1, found => do
    gap
    if begins (← Reader.ahead) then
      let a ← item
      gap
      if ← comma then readListFrom gap begins item comma fuel (a :: found)
      else return (a :: found).reverse
    else return found.reverse

/-- Take an array; there may be a comma behind its last item. -/
def readArray (value : Reader Node) : Reader (List Node) := do
  Reader.take ['[']
  let items ←
    readListFrom skipGap beginsValue value (Reader.take? [',']) (← Reader.ahead).length []
  Reader.take [']']
  return items

/-- Take the keys of a pair, and its value behind an equals sign. -/
def readBinding (value : Reader Node) : Reader (KeyPath × Node) := do
  let keys ← readKeyPath
  Reader.take ['=']
  skipSpaces
  return (keys, ← value)

/-- Take a comma that a key follows. -/
def readCommaBeforeKey : Reader Bool := do
  match ← Reader.ahead with
  | ',' :: rest =>
    if beginsKey (rest.dropWhile isSpace) then
      Reader.skip 1
      return true
    else return false
  | _ => return false

/-- The members of a table between braces. -/
def membersOfPairs (pairs : List (KeyPath × Node)) : Except Cause (List (Key × Node)) := do
  let table ← pairs.foldlM
    (fun table (keys, node) =>
      Table.addPair .braces (!keys.path.isEmpty) keys.key node keys.path table)
    (Table.mk .braces none [])
  return table.members

/-- Take a table between braces. -/
def readBraces (value : Reader Node) : Reader (List (Key × Node)) := do
  Reader.take ['\x7b']
  let place ← Reader.place
  let pairs ←
    readListFrom skipSpaces beginsKey (readBinding value) readCommaBeforeKey
      (← Reader.ahead).length []
  match membersOfPairs pairs with
  | .error cause => Reader.failAt place cause
  | .ok members =>
    Reader.take ['\x7d']
    return members

/-- Take a word that stands for a value. -/
def readWord (word : List Char) (value : Scalar) : Reader Scalar := do
  Reader.take word
  return value

/-- Take a value without parts. -/
def readScalar : Reader Scalar := do
  let rest ← Reader.ahead
  match rest with
  | [] => Reader.fail
  | c :: _ =>
    if c = '"' || c = '\'' then return .text (← readText)
    else if beginsDate rest || beginsTime rest then readMomentText
    else if c = '+' || c = '-' || c.isDigit then readNumber
    else if c = 't' then readWord ['t', 'r', 'u', 'e'] (.boolean true)
    else if c = 'f' then readWord ['f', 'a', 'l', 's', 'e'] (.boolean false)
    else if c = 'i' then readWord ['i', 'n', 'f'] (.real (.infinite false))
    else if c = 'n' then readWord ['n', 'a', 'n'] (.real .undefined)
    else Reader.fail

/-- Take a value; the values inside it are taken by a reader of their own, unless nesting ends. -/
def readNode (inner : Option (Reader Node)) : Reader Node := do
  match (← Reader.ahead).head?, inner with
  | some '[', some value =>
    let (items, span) ← Reader.spanned (readArray value)
    return .array items span
  | some '\x7b', some value =>
    let (members, span) ← Reader.spanned (readBraces value)
    return .table (.mk .braces (some span) members)
  | _, _ =>
    let (scalar, span) ← Reader.spanned readScalar
    return .scalar scalar span

/-- Take a value in which containers may be nested to a depth. -/
def readValue : Nat → Reader Node
  | 0 => readNode none
  | depth + 1 => readNode (some (readValue depth))

/-! ## Lines -/

@[simp] theorem membersOfPairs_nil : membersOfPairs [] = .ok [] := rfl

/-- A document as far as it has been read: its table, and the keys of the last header. -/
structure Draft where
  /-- The table. -/
  table : Table
  /-- The keys of the header that pairs now stand under. -/
  header : List Key

/-- The document with a pair. The table of its header reaches up to the end of the value. -/
def Draft.addPair (draft : Draft) (keys : KeyPath) (node : Node) (stop : Nat) :
    Except Cause Draft := do
  let scope := Table.Scope.header (draft.header.map Key.name)
  let table ← draft.table.throughHeader
    (fun table => (table.extendedTo stop).addPair scope (!keys.path.isEmpty) keys.key node keys.path)
    draft.header
  return { draft with table }

/-- The document with a header, in single brackets or in double ones. -/
def Draft.addHeader (draft : Draft) (double : Bool) (span : Span) (keys : KeyPath) :
    Except Cause Draft := do
  let table ← draft.table.throughHeader
    (if double then Table.addElement span keys.key else Table.addHeader span keys.key) keys.path
  return ⟨table, keys.path ++ [keys.key]⟩

/-- What a line came to, with its cause as a fault at a place. -/
def grown (place : Nat) : Except Cause Draft → Reader Draft
  | .ok draft => return draft
  | .error cause => Reader.failAt place cause

/-- Take a line with a header. -/
def readHeader (draft : Draft) : Reader Draft := do
  let place ← Reader.place
  if (← Reader.ahead) = ['['] then Reader.fail
  Reader.take ['[']
  let double ← Reader.take? ['[']
  let keys ← readKeyPath
  Reader.take (if double then [']', ']'] else [']'])
  let stop ← Reader.place
  lineEnd
  grown place (draft.addHeader double ⟨place, stop⟩ keys)

/-- Take a line with a pair. -/
def readPairLine (draft : Draft) : Reader Draft := do
  let place ← Reader.place
  let (keys, node) ← readBinding (readValue (nestingLimit - 1))
  let stop ← Reader.place
  lineEnd
  grown place (draft.addPair keys node stop)

/-- Take a line, or nothing at the end of the text. -/
def readLine (draft : Draft) : Reader (Option Draft) := do
  skipSpaces
  match ← Reader.ahead with
  | [] => return none
  | '[' :: _ => return some (← readHeader draft)
  | c :: _ =>
    if c = '#' || c = '\n' || c = '\r' then
      lineEnd
      return some draft
    else return some (← readPairLine draft)

/-- Take lines up to the end of the text, at most as many as a number. -/
def readLines : Nat → Draft → Reader Draft
  | 0, draft => return draft
  | fuel + 1, draft => do
    match ← readLine draft with
    | none => return draft
    | some draft => readLines fuel draft

/-- The character that may mark the beginning of a text. -/
def byteOrderMark : Char := '\ufeff'

/-- Take a document. -/
def readDocument : Reader Table := do
  let _ ← Reader.take? [byteOrderMark]
  let draft ← readLines (← Reader.ahead).length ⟨.document, []⟩
  return draft.table

/-- The table of a document. -/
def Table.read? (text : List Char) : Except Fault Table :=
  (readDocument.run (.start text)).map (·.1)

end AnalysisDesk.Toml
