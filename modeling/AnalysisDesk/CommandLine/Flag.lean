/-! # What the command line knows
Flags set something to the value that follows them; switches ask for something by themselves. Each
has a long name, in a fixed order. -/

namespace AnalysisDesk.CommandLine

/-- A flag, which takes a value. -/
inductive Flag
  | apiUrl
  | imageUrl
  | config
  | logFile
  deriving DecidableEq, Repr

/-- A switch, which takes none. -/
inductive Switch
  | help
  | version
  deriving DecidableEq, Repr

/-- Something with a long name. -/
inductive Known
  | flag (flag : Flag)
  | switch (switch : Switch)
  deriving DecidableEq, Repr

/-- The long name of a flag, without its dashes. -/
def Flag.name : Flag → String
  | .apiUrl => "api-url"
  | .imageUrl => "image-url"
  | .config => "config"
  | .logFile => "log-file"

/-- What kind of value a flag takes. -/
def Flag.placeholder : Flag → String
  | .apiUrl | .imageUrl => "URL"
  | .config | .logFile => "PATH"

/-- Whether the value of a flag is a path, which may not be empty. -/
def Flag.isPath : Flag → Bool
  | .apiUrl | .imageUrl => false
  | .config | .logFile => true

/-- The long name of a switch, without its dashes. -/
def Switch.name : Switch → String
  | .help => "help"
  | .version => "version"

/-- The switch of a short letter. -/
def Switch.ofLetter? (c : Char) : Option Switch :=
  if c = 'h' then some .help else if c = 'V' then some .version else none

namespace Known

/-- Everything with a long name, in order. -/
def all : List Known :=
  [.flag .apiUrl, .flag .imageUrl, .flag .config, .flag .logFile, .switch .help, .switch .version]

/-- The long name, without its dashes. -/
def name : Known → String
  | flag f => f.name
  | switch s => s.name

/-- What a long name stands for. -/
def ofName? (name : String) : Option Known := all.find? (·.name = name)

/-- How it is written in a usage line. -/
def usage : Known → String
  | flag f => "--" ++ f.name ++ " <" ++ f.placeholder ++ ">"
  | switch s => "--" ++ s.name

/-- Each long name stands for what bears it. -/
@[simp] theorem ofName?_name (known : Known) : ofName? known.name = some known := by
  cases known with
  | flag f => cases f <;> decide
  | switch s => cases s <;> decide

end Known

/-- The values that the flags were given. -/
structure Options where
  /-- The endpoint. -/
  apiUrl : Option String
  /-- The address of an image. -/
  imageUrl : Option String
  /-- The path of the configuration. -/
  config : Option String
  /-- The path of the journal. -/
  logFile : Option String
  deriving DecidableEq, Repr

namespace Options

/-- No flag given. -/
def none : Options := ⟨.none, .none, .none, .none⟩

/-- The value of a flag. -/
def get (options : Options) : Flag → Option String
  | .apiUrl => options.apiUrl
  | .imageUrl => options.imageUrl
  | .config => options.config
  | .logFile => options.logFile

/-- The options with a value for a flag. -/
def set (options : Options) (flag : Flag) (value : String) : Options :=
  match flag with
  | .apiUrl => { options with apiUrl := some value }
  | .imageUrl => { options with imageUrl := some value }
  | .config => { options with config := some value }
  | .logFile => { options with logFile := some value }

@[simp] theorem get_set (options : Options) (flag : Flag) (value : String) :
    (options.set flag value).get flag = some value := by
  cases flag <;> rfl

/-- Setting a flag leaves the others. -/
theorem get_set_of_ne (options : Options) {flag other : Flag} (value : String)
    (h : other ≠ flag) : (options.set flag value).get other = options.get other := by
  cases flag <;> cases other <;> first | rfl | exact absurd rfl h

end Options
end AnalysisDesk.CommandLine
