import AnalysisDesk.CommandLine.Flag

/-! # Ends of the command line
The command line ends the program with a notice that was asked for, or with a fault. Each has one
text and one exit code. -/

namespace AnalysisDesk.CommandLine

/-- The name of the program. -/
def programName : String := "lexzig-ui"

/-- The version of the program. -/
def programVersion : String := "0.1.0"

/-- Why the command line ends the program. -/
inductive Fault
  /-- An argument that nothing takes, what was probably meant, and the flags given before. -/
  | unexpected (argument : String) (meant : Option Known) (given : List Flag)
  /-- A flag without a value, or a path that is empty. -/
  | missingValue (flag : Flag)
  /-- A flag given twice. -/
  | repeated (flag : Flag)
  /-- A value for a switch, and the flags given before. -/
  | switchValue (switch : Switch) (value : String) (given : List Flag)
  /-- A notice that was asked for. -/
  | notice (switch : Switch)
  deriving DecidableEq, Repr

/-- The usage line, with what was given or with the word for any options. -/
def usageLine (given : List Known) : String :=
  let words := if given.isEmpty then ["[OPTIONS]"] else given.map Known.usage
  "Usage: " ++ " ".intercalate (programName :: words)

/-- The help text. -/
def helpText : String :=
  "Terminal front end for the LexZig analysis API\n\n" ++
  usageLine [] ++ "\n\n" ++
  "Options:\n" ++
  "      --api-url <URL>    Analysis endpoint " ++
  "(overrides LEXZIG_API_URL and the config file)\n" ++
  "      --image-url <URL>  Decorative image URL shown in the header\n" ++
  "      --config <PATH>    Config file (default: ./lexzig.toml if present)\n" ++
  "      --log-file <PATH>  Log file (default: lexzig-ui.log in the temp directory)\n" ++
  "  -h, --help             Print help\n" ++
  "  -V, --version          Print version\n"

/-- The text of a notice. -/
def Switch.text : Switch → String
  | .help => helpText
  | .version => programName ++ " " ++ programVersion ++ "\n"

/-- The first line of an error, without its mark. -/
def problem (words : String) : String := "error: " ++ words

/-- Where to turn for more. -/
def helpHint : String := "\n\nFor more information, try '--help'.\n"

namespace Fault

/-- What is listed as given next to an unexpected argument: what was meant counts too. -/
def listed (meant : Option Known) (given : List Flag) : List Known :=
  let flags := given.map Known.flag
  match meant with
  | none => flags
  | some known => if flags.contains known then flags else flags ++ [known]

/-- The text of a fault. -/
def message : Fault → String
  | unexpected argument meant given =>
    let tip := match meant with
      | none => ""
      | some known => "  tip: a similar argument exists: '--" ++ known.name ++ "'\n\n"
    problem ("unexpected argument '" ++ argument ++ "' found\n\n") ++ tip ++
      usageLine (listed meant given) ++ helpHint
  | missingValue flag =>
    problem ("a value is required for '" ++ (Known.flag flag).usage ++
      "' but none was supplied") ++ helpHint
  | repeated flag =>
    problem ("the argument '" ++ (Known.flag flag).usage ++
      "' cannot be used multiple times\n\n") ++ usageLine [] ++ helpHint
  | switchValue switch value given =>
    problem ("unexpected value '" ++ value ++ "' for '" ++ (Known.switch switch).usage ++
      "' found; no more were expected\n\n") ++
      usageLine (given.map Known.flag ++ [.switch switch]) ++ helpHint
  | notice switch => switch.text

/-- The exit code: a notice is no failure. -/
def exitCode : Fault → Nat
  | notice _ => 0
  | _ => 2

end Fault
end AnalysisDesk.CommandLine
