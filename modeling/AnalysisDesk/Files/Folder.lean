/-! # Folders
A working folder and what lies in it. A path is a chain of segments between slashes, whose last one
names a file unless it leads up. Paths are followed segment by segment; beyond the working folder
there are only the folders above it. -/

namespace AnalysisDesk.Files

/-! ## Paths -/

/-- A path: whether it starts at the root, and its segments. -/
structure Path where
  /-- Whether it starts at the root. -/
  absolute : Bool
  /-- The segments; empty ones and single dots stand for the folder they are in. -/
  segments : List String
  deriving DecidableEq, Repr

/-- The path that a text stands for, none for the empty text. -/
def Path.read? (text : String) : Option Path :=
  if text.isEmpty then none
  else match text.splitOn "/" with
    | "" :: segments => some ⟨true, segments⟩
    | segments => some ⟨false, segments⟩

/-- Whether a segment stands for the folder it is in. -/
def isHere (segment : String) : Bool := segment = "" || segment = "."

/-- A path to a file: the folder it lies in and its name. -/
structure FilePath where
  /-- The folder. -/
  folder : Path
  /-- The name. -/
  name : String
  deriving DecidableEq, Repr

/-- A path as one to a file, none if its last segment leads up or there is none. -/
def Path.file? (path : Path) : Option FilePath :=
  match (path.segments.filter fun segment => !isHere segment).reverse with
  | [] => none
  | ".." :: _ => none
  | name :: before => some ⟨⟨path.absolute, before.reverse⟩, name⟩

@[simp] theorem Path.read?_empty : Path.read? "" = none := rfl

/-! ## Faults -/

/-- Why a file cannot be used. -/
inductive FileFault
  /-- There is nothing at the path. -/
  | missing
  /-- The path passes through a file. -/
  | notFolder
  /-- There is a folder at the path. -/
  | folder
  /-- There is a file where a folder is wanted. -/
  | taken
  /-- The bytes are no text. -/
  | notText
  /-- What the system reports. -/
  | system (words : String)
  deriving DecidableEq, Repr

/-- The text of a fault. -/
def FileFault.message : FileFault → String
  | missing => "No such file or directory (os error 2)"
  | notFolder => "Not a directory (os error 20)"
  | folder => "Is a directory (os error 21)"
  | taken => "File exists (os error 17)"
  | notText => "stream did not contain valid UTF-8"
  | system words => words

/-! ## Entries -/

/-- What lies at a place. -/
inductive Entry
  | file (content : ByteArray)
  | folder

/-- Entries are compared by the bytes of their contents. -/
instance : DecidableEq Entry
  | .file first, .file second =>
    decidable_of_iff (first.data = second.data) (by simp [ByteArray.ext_iff])
  | .file _, .folder => isFalse nofun
  | .folder, .file _ => isFalse nofun
  | .folder, .folder => isTrue rfl

/-- A working folder: what lies at which names. -/
structure Folder where
  /-- The entries by the names that lead to them. -/
  entries : List (List String × Entry)
  deriving DecidableEq

/-- Where a path leads. -/
structure Place where
  /-- Whether it is in the working folder, or outside of it. -/
  inside : Bool
  /-- The names that lead there. -/
  names : List String
  deriving DecidableEq, Repr

namespace Folder

/-! ## Looking -/

/-- What lies at some names; what has something in it is a folder. -/
def entryAt (folder : Folder) (names : List String) : Option Entry :=
  if names.isEmpty then some .folder
  else match folder.entries.find? (·.1 = names) with
    | some (_, entry) => some entry
    | none => if folder.entries.any (names.isPrefixOf ·.1) then some .folder else none

/-- What lies at a place; outside there are only the folders above. -/
def at? (folder : Folder) (place : Place) : Option Entry :=
  if place.inside then folder.entryAt place.names
  else if place.names.isEmpty then some .folder else none

/-- Where a path starts. -/
def origin (path : Path) : Place := ⟨!path.absolute, []⟩

/-- Where a segment leads from a folder. -/
def onward (place : Place) (segment : String) : Place :=
  if isHere segment then place
  else if segment = ".." then
    if place.names.isEmpty then ⟨false, []⟩ else { place with names := place.names.dropLast }
  else { place with names := place.names ++ [segment] }

/-- Follow a segment; only a folder can be gone on from. -/
def follow (folder : Folder) (place : Place) (segment : String) : Except FileFault Place :=
  match folder.at? place with
  | none => .error .missing
  | some (.file _) => .error .notFolder
  | some .folder => .ok (onward place segment)

/-- What lies at a path. -/
def find (folder : Folder) (path : String) : Except FileFault Entry := do
  match Path.read? path with
  | none => .error .missing
  | some path =>
    match folder.at? (← path.segments.foldlM folder.follow (origin path)) with
    | none => .error .missing
    | some entry => return entry

/-- Whether there is something at a path. -/
def contains (folder : Folder) (path : String) : Bool := (folder.find path).isOk

/-- The text of the file at a path. -/
def readText (folder : Folder) (path : String) : Except FileFault String := do
  match ← folder.find path with
  | .folder => .error .folder
  | .file content =>
    match String.fromUTF8? content with
    | some text => return text
    | none => .error .notText

/-- Nothing lies at the empty path. -/
@[simp] theorem find_empty (folder : Folder) : folder.find "" = .error .missing := rfl

/-! ## Changing -/

/-- The folder with an entry at some names. -/
def put (folder : Folder) (names : List String) (entry : Entry) : Folder :=
  ⟨folder.entries.filter (·.1 != names) ++ [(names, entry)]⟩

/-- Follow a segment of a path of folders, making the folder it leads to if there is nothing. The
last segment meets a file with another fault than the ones before it. -/
def makeOnward (state : Folder × Place) (segment : String) : Except FileFault (Folder × Place) := do
  let (folder, place) := state
  let place ← folder.follow place segment
  match folder.at? place with
  | some _ => return (folder, place)
  | none =>
    if place.inside then return (folder.put place.names .folder, place)
    else .error .missing

/-- Make the folders of a path, as far as they are missing. -/
def makeFolders (folder : Folder) (path : Path) : Except FileFault (Folder × Place) := do
  let (folder, place) ← path.segments.foldlM makeOnward (folder, origin path)
  match folder.at? place with
  | some (.file _) => .error .taken
  | _ => return (folder, place)

/-- Add text to the end of a file, which is made if it is missing. -/
def append (folder : Folder) (place : Place) (text : String) : Except FileFault Folder :=
  match folder.at? place with
  | some .folder => .error .folder
  | some (.file content) => .ok (folder.put place.names (.file (content ++ text.toUTF8)))
  | none =>
    if place.inside then .ok (folder.put place.names (.file text.toUTF8)) else .error .missing

end Folder
end AnalysisDesk.Files
