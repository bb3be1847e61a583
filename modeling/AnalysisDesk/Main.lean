import AnalysisDesk.Settings.Launch

/-! # The program
Reads the environment and the configuration, writes the journal, and says how the launch ended.
What any of it means is decided elsewhere. -/

namespace AnalysisDesk

open AnalysisDesk.Files (FileFault Path)
open AnalysisDesk.Settings

/-- The endpoint that this program is built with: none. -/
def builtApiUrl : Option String := none

/-- What a failed operation reports. -/
def fileFault : IO.Error → FileFault
  | .noFileOrDirectory .. => .missing
  | .alreadyExists .. => .taken
  | other => .system (toString other)

/-- The text of a file. -/
def readText (path : String) : IO (Except FileFault String) := do
  try
    let content ← IO.FS.readBinFile path
    match String.fromUTF8? content with
    | some text => return .ok text
    | none => return .error .notText
  catch failure => return .error (fileFault failure)

/-- The configuration; the usual one may be missing. -/
def readConfig (options : CommandLine.Options) : IO (Except Fault Config) := do
  match options.config with
  | some path => return configOf path (← readText path)
  | none =>
    match ← readText defaultConfigPath with
    | .error .missing => return .ok .empty
    | content => return configOf defaultConfigPath content

/-- The environment, as far as it matters. -/
def readEnvironment : IO Environment := do
  let names := [apiUrlVariable, imageUrlVariable, logVariable]
  let values ← names.mapM fun name => do return (name, ← IO.getEnv name)
  return fun name => (values.lookup name).join

/-- The folder for temporary files. -/
def temporaryFolder : IO String := do return (← IO.getEnv "TMPDIR").getD "/tmp"

/-- Add text to a journal, whose folders are made if they are missing. -/
def writeJournal (path text : String) : IO (Except Journal.Fault Unit) := do
  match (Path.read? path).bind Path.file? with
  | none => return .error (.notFile path)
  | some file =>
    try
      let start := if file.folder.absolute then "/" else "./"
      IO.FS.createDirAll (start ++ "/".intercalate file.folder.segments)
      let handle ← IO.FS.Handle.mk path .append
      handle.putStr text
      return .ok ()
    catch failure => return .error (.files (fileFault failure))

/-- Launch, and say how it ended. -/
def launched (arguments : List String) : IO Ending := do
  match CommandLine.Options.ofArguments arguments with
  | .error fault => return .commandLine fault
  | .ok options =>
    let environment ← readEnvironment
    let loaded ← readConfig options
    match resolve builtApiUrl options environment (← temporaryFolder) loaded with
    | .error fault => return .settings fault
    | .ok settings =>
      match ← writeJournal settings.logFile (startTranscript environment settings) with
      | .error fault => return .journal settings.logFile fault
      | .ok () => return .noTerminal

end AnalysisDesk

/-- The program. -/
def main (arguments : List String) : IO UInt32 := do
  let ending ← AnalysisDesk.launched arguments
  (← IO.getStdout).putStr ending.output
  (← IO.getStderr).putStr ending.complaint
  return ending.exitCode.toUInt32
