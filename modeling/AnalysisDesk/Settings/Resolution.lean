import AnalysisDesk.CommandLine.Flag
import AnalysisDesk.Files.Folder
import AnalysisDesk.Settings.Config
import AnalysisDesk.Text.Blank

/-! # Settings
Each setting is taken from the first source that has more than blanks for it: a flag, then the
environment, then the configuration, and for the endpoint at last the one that the program was built
with, or else a fixed address. Only what is taken is checked. -/

namespace AnalysisDesk.Settings

open AnalysisDesk.CommandLine (Options)
open AnalysisDesk.Files (FileFault Folder)

/-! ## Faults -/

/-- Why there are no settings. -/
inductive Fault
  /-- The configuration could not be read. -/
  | unreadable (path : String) (cause : FileFault)
  /-- The configuration, whose text is known, is wrong. -/
  | config (text : String) (fault : ConfigFault)
  /-- An address is none of the web. -/
  | invalidUrl (url : String)

/-- The text of a fault. -/
def Fault.message : Fault → String
  | unreadable path cause => "Failed to read config " ++ path ++ ": " ++ cause.message
  | config text fault => "Invalid config: " ++ fault.report text
  | invalidUrl url => "Invalid URL (expected http:// or https://): " ++ url

/-! ## Addresses -/

/-- How an address of the web begins. -/
def webPrefixes : List (List Char) := ["http://".toList, "https://".toList]

/-- Whether an address is one of the web: behind its beginning stands something, and no slash
first. -/
def isWebAddress (url : String) : Bool :=
  webPrefixes.any fun start =>
    match start.isPrefixOf url.toList, url.toList.drop start.length with
    | true, c :: _ => c != '/'
    | _, _ => false

/-- An address that is one of the web. -/
def checkUrl (url : String) : Except Fault String :=
  if isWebAddress url then .ok url else .error (.invalidUrl url)

/-- An address passes if and only if it is one of the web. -/
theorem checkUrl_eq_ok_iff {url passed : String} :
    checkUrl url = .ok passed ↔ isWebAddress url = true ∧ passed = url := by
  unfold checkUrl
  by_cases accepted : isWebAddress url = true
  · rw [if_pos accepted, Except.ok.injEq]
    exact ⟨fun h => ⟨accepted, h.symm⟩, fun h => h.2.symm⟩
  · rw [if_neg accepted]
    exact ⟨fun h => (by cases h), fun h => absurd h.1 accepted⟩

/-! ## Sources -/

/-- The endpoint if no source names one and the program was built with none. -/
def defaultApiUrl : String := "http://127.0.0.1:8000/"

/-- The endpoint if no source names one: the one that the program was built with, blank or not, or
else the default. -/
def usualApiUrl (built : Option String) : String := built.getD defaultApiUrl

@[simp] theorem usualApiUrl_none : usualApiUrl none = defaultApiUrl := rfl

/-- The path of the configuration if no flag names one. -/
def defaultConfigPath : String := "lexzig.toml"

/-- The name of the journal in the folder for temporary files. -/
def defaultLogName : String := "lexzig-ui.log"

/-- The variable that names the endpoint. -/
def apiUrlVariable : String := "LEXZIG_API_URL"

/-- The variable that names the address of an image. -/
def imageUrlVariable : String := "LEXZIG_IMAGE_URL"

/-- The variable that says what the journal lets through. -/
def logVariable : String := "LEXZIG_LOG"

/-- What the variables of the environment hold. -/
abbrev Environment := String → Option String

/-- A value with more than blanks, as it is. -/
def written (value : Option String) : Option String :=
  value.filter fun text => !Text.isBlankText text

/-- The first of three sources that has more than blanks. -/
def firstWritten (flag environment config : Option String) : Option String :=
  (written flag).or ((written environment).or (written config))

/-- A value of blanks counts as none. -/
@[simp] theorem written_of_isBlankText {text : String} (h : Text.isBlankText text = true) :
    written (some text) = none := by
  simp [written, Option.filter, h]

/-- A value with more than blanks is kept as it is. -/
@[simp] theorem written_of_not_isBlankText {text : String} (h : Text.isBlankText text = false) :
    written (some text) = some text := by
  simp [written, Option.filter, h]

@[simp] theorem written_none : written none = none := rfl

/-! ## Resolving -/

/-- The settings of the program. -/
structure Resolved where
  /-- The endpoint. -/
  apiUrl : String
  /-- The address of an image. -/
  imageUrl : Option String
  /-- The path of the journal. -/
  logFile : String
  deriving DecidableEq, Repr

/-- The endpoint that is taken. -/
def chosenApiUrl (built : Option String) (options : Options) (environment : Environment)
    (config : Config) : String :=
  (firstWritten options.apiUrl (environment apiUrlVariable) config.apiUrl).getD
    (usualApiUrl built)

/-- The address of an image that is taken, if any is. -/
def chosenImageUrl (options : Options) (environment : Environment) (config : Config) :
    Option String :=
  firstWritten options.imageUrl (environment imageUrlVariable) config.imageUrl

/-- The settings for what became of loading the configuration. The folder for temporary files holds
the journal unless a flag says otherwise. -/
def resolve (built : Option String) (options : Options) (environment : Environment)
    (temporary : String) (loaded : Except Fault Config) : Except Fault Resolved := do
  let config ← loaded
  let apiUrl ← checkUrl (chosenApiUrl built options environment config)
  let imageUrl ← match chosenImageUrl options environment config with
    | none => pure none
    | some url => (checkUrl url).map some
  return ⟨apiUrl, imageUrl, options.logFile.getD (temporary ++ "/" ++ defaultLogName)⟩

/-- A configuration that could not be loaded decides, whatever the other sources say. -/
@[simp] theorem resolve_error (built : Option String) (options : Options)
    (environment : Environment) (temporary : String) (fault : Fault) :
    resolve built options environment temporary (.error fault) = .error fault := rfl

/-! ## Loading -/

/-- The path the configuration is loaded from, if it is: the one of the flag, or the usual one if
there is something there. -/
def configPath? (options : Options) (usualExists : Bool) : Option String :=
  match options.config with
  | some path => some path
  | none => if usualExists then some defaultConfigPath else none

/-- The configuration of what became of reading a path. -/
def configOf (path : String) (content : Except FileFault String) : Except Fault Config :=
  match content with
  | .error cause => .error (.unreadable path cause)
  | .ok text =>
    match Config.read text with
    | .error fault => .error (.config text fault)
    | .ok config => .ok config

/-- The configuration in a working folder. -/
def loadConfig (options : Options) (folder : Folder) : Except Fault Config :=
  match configPath? options (folder.contains defaultConfigPath) with
  | none => .ok .empty
  | some path => configOf path (folder.readText path)

end AnalysisDesk.Settings
