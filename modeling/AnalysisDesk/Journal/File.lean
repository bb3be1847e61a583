import AnalysisDesk.Files.Folder

/-! # Journal files
The journal is written to a file; folders on the way to it are made, and what is in it stays. A
program writes one journal. -/

namespace AnalysisDesk.Journal

open AnalysisDesk.Files (FileFault Folder Path Place)

/-- Why there is no journal. -/
inductive Fault
  /-- The path does not name a file. -/
  | notFile (path : String)
  /-- There is a journal already. -/
  | second
  /-- The file or a folder on the way to it cannot be made. -/
  | files (cause : FileFault)
  deriving DecidableEq, Repr

/-- The report of a journal that could not be set up. -/
def setupReport (words : String) : String := "Logging setup failed: " ++ words

/-- The text of a fault. -/
def Fault.message : Fault → String
  | notFile path => setupReport ("not a file path: " ++ path)
  | second => setupReport "a global default trace dispatcher has already been set"
  | files cause => "IO error: " ++ cause.message

/-- What caused a fault in turn. -/
def Fault.cause? : Fault → Option FileFault
  | notFile _ => none
  | second => none
  | files cause => some cause

/-- Make the folders and the file of a journal. -/
def openAt (folder : Folder) (path : String) : Except Fault (Folder × Place) :=
  match (Path.read? path).bind Path.file? with
  | none => .error (.notFile path)
  | some file =>
    match folder.makeFolders file.folder with
    | .error cause => .error (.files cause)
    | .ok (folder, place) =>
      let place := { place with names := place.names ++ [file.name] }
      match folder.append place "" with
      | .error cause => .error (.files cause)
      | .ok folder => .ok (folder, place)

/-- Write to an open journal. -/
def write (folder : Folder) (place : Place) (text : String) : Except Fault Folder :=
  match folder.append place text with
  | .error cause => .error (.files cause)
  | .ok folder => .ok folder

end AnalysisDesk.Journal
