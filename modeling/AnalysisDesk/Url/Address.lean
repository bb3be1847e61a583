import AnalysisDesk.Url.Host

/-! # Addresses
An address is a scheme and, between slashes, who is asked where for what. Reading one brings it into
its usual form: letters of scheme and host small, usual numbers left out, steps up the path taken,
and everything encoded that needs to be. Only addresses with a host can be used here. -/

namespace AnalysisDesk.Url

/-! ## Schemes -/

/-- A scheme, as far as reading an address depends on it. -/
inductive Scheme
  /-- A scheme of the web and the number that need not be written behind a host. -/
  | web (name : List Char) (usual : Nat)
  /-- The scheme of files. -/
  | file
  | other (name : List Char)
  deriving DecidableEq, Repr

namespace Scheme

/-- The schemes of the web and their usual numbers. -/
def webSchemes : List (List Char × Nat) :=
  [("http".toList, 80), ("https".toList, 443), ("ws".toList, 80), ("wss".toList, 443),
   ("ftp".toList, 21)]

/-- The scheme of a name in small letters. -/
def ofName (name : List Char) : Scheme :=
  match webSchemes.find? (·.1 = name) with
  | some (name, usual) => web name usual
  | none => if name = "file".toList then file else other name

/-- The name of a scheme. -/
def name : Scheme → List Char
  | web name _ => name
  | file => "file".toList
  | other name => name

/-- Whether a backslash counts as a slash. -/
def isSpecial : Scheme → Bool
  | web .. => true
  | file => true
  | other _ => false

/-- The number that need not be written behind a host. -/
def usualNumber : Scheme → Option Nat
  | web _ usual => some usual
  | _ => none

/-- Whether a character separates the parts of a path. -/
def isSlash (scheme : Scheme) (c : Char) : Bool := c = '/' || (scheme.isSpecial && c = '\\')

/-- Whether a character ends the part between the slashes and the path. -/
def endsAuthority (scheme : Scheme) (c : Char) : Bool := scheme.isSlash c || c = '?' || c = '#'

end Scheme

/-- An address with a host. -/
structure Address where
  /-- The scheme. -/
  scheme : Scheme
  /-- The user's name and password, encoded, with the sign behind them. -/
  user : List Char
  /-- The host. -/
  host : Host
  /-- The number behind the host, if it is not the usual one. -/
  number : Option Nat
  /-- The segments of the path, encoded. -/
  path : List (List Char)
  /-- The query, encoded. -/
  query : Option (List Char)
  /-- The fragment, encoded. -/
  fragment : Option (List Char)
  deriving DecidableEq, Repr

/-! ## Parts of an address -/

/-- Whether a character is no more than a space. -/
def isMargin (c : Char) : Bool := c.toNat ≤ 0x20

/-- An address without blanks around it, and without tabs and newlines in it. -/
def tidy (text : List Char) : List Char :=
  (((text.dropWhile isMargin).reverse.dropWhile isMargin).reverse).filter fun c =>
    c != '\t' && c != '\n' && c != '\r'

/-- Whether a character may stand in the name of a scheme. -/
def isSchemeChar (c : Char) : Bool := c.isAlphanum || c = '+' || c = '-' || c = '.'

/-- The scheme of an address and what stands behind its colon. -/
def readScheme? (text : List Char) : Option (Scheme × List Char) :=
  let name := text.takeWhile isSchemeChar
  match name.head?, text.drop name.length with
  | some c, ':' :: rest => if c.isAlpha then some (.ofName (name.map Char.toLower), rest) else none
  | _, _ => none

/-- The user and what stands behind the last at sign. -/
def cutUser (authority : List Char) : Option (List Char × List Char) :=
  if authority.contains '@' then
    let host := (authority.reverse.takeWhile (· != '@')).reverse
    some (authority.take (authority.length - host.length - 1), host)
  else none

/-- A user's name and password, encoded; an empty password is left out. -/
def writeUser (user : List Char) : List Char :=
  let name := encode isUserEncoded (user.takeWhile (· != ':'))
  let password := encode isUserEncoded ((user.dropWhile (· != ':')).drop 1)
  let both := if password.isEmpty then name else name ++ ':' :: password
  if both.isEmpty then [] else both ++ ['@']

/-- The host of an authority and what stands behind it; a colon between brackets belongs to it. -/
def cutHost : Bool → List Char → List Char × List Char
  | _, [] => ([], [])
  | bracketed, c :: rest =>
    if c = ':' && !bracketed then ([], c :: rest)
    else
      let bracketed := if c = '[' then true else if c = ']' then false else bracketed
      let (host, behind) := cutHost bracketed rest
      (c :: host, behind)

/-- The greatest number behind a host. -/
def greatestNumber : Nat := 65535

/-- The number behind the colon of an authority; the usual one is left out. -/
def readNumber (scheme : Scheme) : List Char → Except Fault (Option Nat)
  | ':' :: digits =>
    if digits.isEmpty then .ok none
    else match numberIn? 10 digits with
      | none => .error .number
      | some number =>
        if greatestNumber < number then .error .number
        else .ok (if scheme.usualNumber = some number then none else some number)
  | _ => .ok none

/-- The spellings of a segment that stands for the folder it is in. -/
def isHereSegment (segment : List Char) : Bool :=
  [".", "%2e"].contains (String.ofList (segment.map Char.toLower))

/-- The spellings of a segment that stands for the folder above. -/
def isUpSegment (segment : List Char) : Bool :=
  ["..", ".%2e", "%2e.", "%2e%2e"].contains (String.ofList (segment.map Char.toLower))

/-- The segments of a path so far, with one more; the last may leave an empty one behind. -/
def addSegment (path : List (List Char)) (segment : List Char) (isLast : Bool) :
    List (List Char) :=
  let behind := if isLast then [[]] else []
  if isUpSegment segment then path.dropLast ++ behind
  else if isHereSegment segment then path ++ behind
  else path ++ [encode isPathEncoded segment]

/-- The segments of a path so far, with all of some more. -/
def addSegments (path : List (List Char)) : List (List Char) → List (List Char)
  | [] => path
  | [last] => addSegment path last true
  | segment :: next :: rest => addSegments (addSegment path segment false) (next :: rest)

/-- The segments of a path. A special scheme has at least an empty one. -/
def readPath (scheme : Scheme) (text : List Char) : List (List Char) :=
  match text with
  | [] => if scheme.isSpecial then [[]] else []
  | c :: rest =>
    addSegments [] (splitAt scheme.isSlash (if scheme.isSlash c then rest else c :: rest))

/-- What stands behind a path: a query and a fragment. -/
def readTail (scheme : Scheme) (text : List Char) : Option (List Char) × Option (List Char) :=
  let query := text.takeWhile (· != '#')
  let fragment := text.dropWhile (· != '#')
  (query.head?.map fun _ => encode (isQueryEncoded scheme.isSpecial) (query.drop 1),
   fragment.head?.map fun _ => encode isFragmentEncoded (fragment.drop 1))

/-! ## Reading and writing -/

/-- What an authority says: user, host and number. -/
def readAuthority (coding : NameCoding) (scheme : Scheme) (authority : List Char) :
    Except Fault (List Char × Host × Option Nat) := do
  let (user, rest) := (cutUser authority).getD ([], authority)
  let (host, behind) := cutHost false rest
  if host.isEmpty then .error .emptyHost
  let host ← if scheme.isSpecial then Host.readWeb coding host else Host.readOther host
  return (writeUser user, host, ← readNumber scheme behind)

/-- An address behind the slashes before its authority. -/
def readBehindSlashes (coding : NameCoding) (scheme : Scheme) (text : List Char) :
    Except Fault Address := do
  let authority := text.takeWhile fun c => !scheme.endsAuthority c
  let rest := text.drop authority.length
  let path := rest.takeWhile fun c => c != '?' && c != '#'
  let (query, fragment) := readTail scheme (rest.drop path.length)
  let (user, host, number) ← readAuthority coding scheme authority
  return ⟨scheme, user, host, number, readPath scheme path, query, fragment⟩

/-- Whether a segment is a letter of a drive. -/
def isDrive : List Char → Bool
  | [c, mark] => c.isAlpha && (mark = ':' || mark = '|')
  | _ => false

/-- An address of a file behind two slashes. A drive stands in place of a host, and so does the
machine itself; the path has no empty segments at its beginning. -/
def readFile (coding : NameCoding) (text : List Char) : Except Fault Address := do
  let scheme := Scheme.file
  let authority := text.takeWhile fun c => !scheme.endsAuthority c
  if authority.isEmpty || isDrive authority then .error .emptyHost
  let host ← Host.readWeb coding authority
  if host = .name "localhost".toList then .error .emptyHost
  let rest := text.drop authority.length
  let path := rest.takeWhile fun c => c != '?' && c != '#'
  let (query, fragment) := readTail scheme (rest.drop path.length)
  let segments := readPath scheme path
  if segments.head?.any isDrive then .error .emptyHost
  let shown := segments.dropWhile List.isEmpty
  return ⟨scheme, [], host, none, if shown.isEmpty then [[]] else shown, query, fragment⟩

/-- Read an address. -/
def Address.read (coding : NameCoding) (text : String) : Except Fault Address :=
  match readScheme? (tidy text.toList) with
  | none => .error .relative
  | some (.web name usual, rest) =>
    let scheme := Scheme.web name usual
    readBehindSlashes coding scheme (rest.dropWhile scheme.isSlash)
  | some (.file, first :: second :: rest) =>
    if Scheme.file.isSlash first && Scheme.file.isSlash second then readFile coding rest
    else .error .emptyHost
  | some (.file, _) => .error .emptyHost
  | some (.other name, '/' :: '/' :: rest) => readBehindSlashes coding (.other name) rest
  | some (.other _, _) => .error .emptyHost

/-- Write an address. -/
def Address.write (address : Address) : String :=
  String.ofList
    (address.scheme.name ++ "://".toList ++ address.user ++ address.host.write ++
      (address.number.toList.flatMap fun number => ':' :: Number.decimalDigits number) ++
      (address.path.flatMap ('/' :: ·)) ++
      (address.query.toList.flatMap ('?' :: ·)) ++
      (address.fragment.toList.flatMap ('#' :: ·)))

end AnalysisDesk.Url
