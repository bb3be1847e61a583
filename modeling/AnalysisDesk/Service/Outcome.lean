import AnalysisDesk.Json.Printer
import AnalysisDesk.Text.Quoted

/-! # Outcomes of an analysis
What a submitted source can come to: an analysis, a complaint of the service, or a fault when the
service could not be reached or its answer could not be understood. Each fault has one text. -/

namespace AnalysisDesk.Service

open AnalysisDesk.Json (Value)

/-- A successful analysis. -/
structure Analysis where
  /-- The lexemes in source order. -/
  tokens : List String
  /-- The parse tree. -/
  tree : Value
  deriving Repr

/-- What the service made of a source. -/
inductive Outcome
  | success (analysis : Analysis)
  /-- The service complained. -/
  | failure (detail : String)
  deriving Repr

/-- Whether an outcome is an analysis. -/
def Outcome.isSuccess : Outcome → Bool
  | .success _ => true
  | .failure _ => false

/-- Why no answer was received. -/
inductive TransportFault
  | network (cause : String)
  | input (cause : String)
  deriving DecidableEq, Repr

/-- The text that reports a transport fault. -/
def TransportFault.message : TransportFault → String
  | .network cause => "Network error: " ++ cause
  | .input cause => "IO error: " ++ cause

/-- What an analysis is expected to hold at a place. -/
inductive Expected
  | record
  | sequence
  | text
  deriving DecidableEq, Repr

/-- The words for what is expected. -/
def Expected.words : Expected → String
  | .record => "struct AnalysisData"
  | .sequence => "a sequence"
  | .text => "a string"

/-- How a value fails to be an analysis. -/
inductive Mismatch
  /-- A member is missing. -/
  | missing (field : String)
  /-- A value of another type stands where one is expected. -/
  | type (found : Value) (expected : Expected)
  /-- A list is too short for an analysis. -/
  | short (length : Nat)
  /-- A list is too long for an analysis. -/
  | long (length : Nat)
  deriving Repr

/-- The words for a value of the wrong type. -/
def typeWords : Value → String
  | .null => "null"
  | .bool b => "boolean `" ++ String.ofList (Json.boolWord b) ++ "`"
  | .number (.whole n) => "integer `" ++ String.ofList (Number.signedDigits n) ++ "`"
  | .number n => "floating point `" ++ String.ofList n.write ++ "`"
  | .text s => "string " ++ Text.quoted s
  | .array _ => "sequence"
  | .object _ => "map"

/-- The text that reports a mismatch. -/
def Mismatch.message : Mismatch → String
  | .missing field => "missing field `" ++ field ++ "`"
  | .type found expected => "invalid type: " ++ typeWords found ++ ", expected " ++ expected.words
  | .short length =>
    "invalid length " ++ toString length ++ ", expected struct AnalysisData with 2 elements"
  | .long length =>
    "invalid length " ++ toString length ++ ", expected fewer elements in array"

/-- Why an answer could not be understood. -/
inductive Malformation
  /-- It holds neither an analysis nor a complaint. -/
  | neither
  /-- What it holds for an analysis is none. -/
  | mismatch (m : Mismatch)
  deriving Repr

/-- The text of a malformation. -/
def Malformation.message : Malformation → String
  | .neither => "body has neither data nor detail"
  | .mismatch m => m.message

/-- Why a submitted source has no outcome. -/
inductive Fault
  | transport (fault : TransportFault)
  | malformed (reason : Malformation)
  deriving Repr

/-- The report of a failed transport. -/
def transportReport (text : String) : String := "Transport failure: " ++ text

/-- The report of an answer that could not be understood. -/
def malformedReport (text : String) : String := "Malformed response: " ++ text

/-- The text that reports a fault. -/
def Fault.message : Fault → String
  | .transport fault => transportReport fault.message
  | .malformed reason => malformedReport reason.message

end AnalysisDesk.Service
