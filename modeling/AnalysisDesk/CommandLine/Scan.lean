import AnalysisDesk.CommandLine.Fault
import AnalysisDesk.Text.Similarity

/-! # Scanning the command line
Arguments are taken from left to right. A flag may have its value attached or in the next argument;
in the latter case the value is looked at when the next flag or the end comes, so that an argument
nothing takes is reported ahead of it. -/

namespace AnalysisDesk.CommandLine

/-! ## Forms of an argument -/

/-- The form of an argument. -/
inductive Form
  /-- Two dashes alone: no flags after it. -/
  | stop
  /-- Two dashes and a name, perhaps with a value attached by an equals sign. -/
  | long (name : String) (value : Option String)
  /-- A dash and letters, the first one apart. -/
  | short (letter : Char)
  /-- Anything else. -/
  | plain
  deriving DecidableEq, Repr

/-- A name, and what stands behind the first equals sign if there is one. -/
def splitValue (text : List Char) : String × Option String :=
  let name := String.ofList (text.takeWhile (· != '='))
  match text.dropWhile (· != '=') with
  | [] => (name, none)
  | _ :: value => (name, some (String.ofList value))

/-- The form of an argument. -/
def Form.of (argument : String) : Form :=
  match argument.toList with
  | ['-', '-'] => .stop
  | '-' :: '-' :: text => .long (splitValue text).1 (splitValue text).2
  | '-' :: letter :: _ => .short letter
  | _ => .plain

/-! ## Names that were probably meant -/

/-- How similar a name must be to be suggested. -/
def leastSimilarity : Text.Share := ⟨7, 10⟩

/-- The known name most similar to a name, the later one of two as similar, if it is similar
enough. -/
def meant? (name : String) : Option Known :=
  let similar := fun (known : Known) => Text.similarity name.toList known.name.toList
  (Known.all.filter fun known => leastSimilarity.atMost (similar known)).foldl
    (fun best known =>
      match best with
      | none => some known
      | some held => if (similar held).atMost (similar known) then some known else some held)
    none

/-! ## Scanning -/

/-- A flag whose value has not been looked at. -/
structure Pending where
  /-- The flag. -/
  flag : Flag
  /-- Its value, if it has come. -/
  value : Option String
  deriving DecidableEq, Repr

/-- The command line as far as it has been scanned. -/
structure Scan where
  /-- The values so far. -/
  options : Options
  /-- The flags given so far, in order. -/
  given : List Flag
  /-- The flag whose value has not been looked at. -/
  pending : Option Pending
  /-- Whether no more flags are taken. -/
  stopped : Bool
  deriving DecidableEq, Repr

namespace Scan

/-- Nothing scanned. -/
def start : Scan := ⟨.none, [], none, false⟩

/-- Give a flag its value, and say what is wrong with that, if anything is. -/
def assign (scan : Scan) (flag : Flag) (value : String) : Scan × Option Fault :=
  if scan.given.contains flag then
    ({ scan with given := scan.given.erase flag }, some (.repeated flag))
  else
    let scan := { scan with given := scan.given ++ [flag] }
    if flag.isPath && value.isEmpty then (scan, some (.missingValue flag))
    else ({ scan with options := scan.options.set flag value }, none)

/-- Look at the value of the pending flag. -/
def settle (scan : Scan) : Scan × Option Fault :=
  match scan.pending with
  | none => (scan, none)
  | some ⟨flag, none⟩ => ({ scan with pending := none }, some (.missingValue flag))
  | some ⟨flag, some value⟩ => assign { scan with pending := none } flag value

/-- A scan that must be without fault. -/
def sound : Scan × Option Fault → Except Fault Scan
  | (scan, none) => .ok scan
  | (_, some fault) => .error fault

/-- Take a long name. -/
def takeLong (scan : Scan) (name : String) (value : Option String) : Except Fault Scan :=
  match Known.ofName? name, value with
  | some (.flag flag), some value => do sound ((← sound scan.settle).assign flag value)
  | some (.flag flag), none => do
    return { ← sound scan.settle with pending := some ⟨flag, none⟩ }
  | some (.switch switch), some value => .error (.switchValue switch value scan.given)
  | some (.switch switch), none => do
    let _ ← sound scan.settle
    .error (.notice switch)
  | none, _ => .error (.unexpected ("--" ++ name) (meant? name) scan.settle.1.given)

/-- Take a short letter. -/
def takeShort (scan : Scan) (letter : Char) : Except Fault Scan :=
  match Switch.ofLetter? letter with
  | some switch => do
    let _ ← sound scan.settle
    .error (.notice switch)
  | none => .error (.unexpected (String.ofList ['-', letter]) none [])

/-- Take an argument that is no flag: the value of the flag before it, or of none. -/
def takePlain (scan : Scan) (argument : String) : Except Fault Scan :=
  match scan.pending with
  | some ⟨flag, none⟩ => .ok { scan with pending := some ⟨flag, some argument⟩ }
  | _ => .error (.unexpected argument none [])

/-- Take an argument. -/
def take (scan : Scan) (argument : String) : Except Fault Scan :=
  if scan.stopped then .error (.unexpected argument none [])
  else match Form.of argument with
    | .stop => .ok { scan with stopped := true }
    | .long name value => scan.takeLong name value
    | .short letter => scan.takeShort letter
    | .plain => scan.takePlain argument

end Scan

/-- The options of a command line. -/
def Options.ofArguments (arguments : List String) : Except Fault Options := do
  let scan ← arguments.foldlM Scan.take .start
  return (← Scan.sound scan.settle).options

@[simp] theorem Options.ofArguments_nil : Options.ofArguments [] = .ok .none := rfl

end AnalysisDesk.CommandLine
