import AnalysisDesk.CommandLine.Scan
import AnalysisDesk.Journal.File
import AnalysisDesk.Journal.Filter
import AnalysisDesk.Settings.Resolution

/-! # Launching
The program scans its arguments, resolves its settings, opens its journal and notes that it starts.
Then it takes over the terminal; without one it ends there. How it ends decides what it says, where,
and with which exit code. -/

namespace AnalysisDesk.Settings

open AnalysisDesk.Files (Folder)
open AnalysisDesk.Journal (Event Filter)

/-- How a launch ends. -/
inductive Ending
  /-- On the command line. -/
  | commandLine (fault : CommandLine.Fault)
  /-- Without settings. -/
  | settings (fault : Fault)
  /-- Without a journal at a path. -/
  | journal (path : String) (fault : Journal.Fault)
  /-- Without a terminal. -/
  | noTerminal

namespace Ending

/-- The exit code. -/
def exitCode : Ending → Nat
  | commandLine fault => fault.exitCode
  | settings _ => 2
  | journal .. => 1
  | noTerminal => 1

/-- What is written as output: the notices that were asked for. -/
def output : Ending → String
  | commandLine (.notice switch) => switch.text
  | _ => ""

/-- The chain of causes of a journal that could not be opened. -/
def causes (fault : Journal.Fault) : String :=
  match fault.cause? with
  | none => "    " ++ fault.message ++ "\n"
  | some cause => "    0: " ++ fault.message ++ "\n    1: " ++ cause.message ++ "\n"

/-- What is written as a complaint. -/
def complaint : Ending → String
  | commandLine (.notice _) => ""
  | commandLine fault => fault.message
  | settings fault => "Error: " ++ fault.message ++ "\n"
  | journal path fault => "Error: cannot log to " ++ path ++ "\n\nCaused by:\n" ++ causes fault
  | noTerminal => "Error: terminal UI failed\n"

end Ending

/-- What a program notes when it starts. -/
def startTranscript (environment : Environment) (settings : Resolved) : String :=
  (Filter.ofSetting (environment logVariable)).transcript [.starting settings.apiUrl]

/-- Open the journal of some settings in a folder and note the start. -/
def startJournal (environment : Environment) (settings : Resolved) (folder : Folder) :
    Except Journal.Fault Folder := do
  let (folder, place) ← Journal.openAt folder settings.logFile
  Journal.write folder place (startTranscript environment settings)

/-- Launch in a working folder without a terminal, built with an endpoint or without: how it ends,
and the folder then. -/
def launch (built : Option String) (arguments : List String) (environment : Environment)
    (temporary : String) (folder : Folder) : Ending × Folder :=
  match CommandLine.Options.ofArguments arguments with
  | .error fault => (.commandLine fault, folder)
  | .ok options =>
    match resolve built options environment temporary (loadConfig options folder) with
    | .error fault => (.settings fault, folder)
    | .ok settings =>
      match startJournal environment settings folder with
      | .error fault => (.journal settings.logFile fault, folder)
      | .ok folder => (.noTerminal, folder)

end AnalysisDesk.Settings
