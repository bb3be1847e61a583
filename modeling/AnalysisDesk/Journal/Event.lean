/-! # Journal events
What the program notes about its own work: each event has a level, comes from one part of the
program, and is written as one line of message and fields. -/

namespace AnalysisDesk.Journal

/-- How much an event matters, the gravest first. -/
inductive Level
  | error
  | warn
  | info
  | debug
  | trace
  deriving DecidableEq, Repr

/-- The rank of a level: the higher, the less it matters. -/
def Level.rank : Level → Nat
  | .error => 1
  | .warn => 2
  | .info => 3
  | .debug => 4
  | .trace => 5

/-- The name of a level, set right in five columns. -/
def Level.label : Level → String
  | .error => "ERROR"
  | .warn => " WARN"
  | .info => " INFO"
  | .debug => "DEBUG"
  | .trace => "TRACE"

/-- Something worth noting. -/
inductive Event
  /-- The program begins its work with an endpoint. -/
  | starting (endpoint : String)
  /-- A source of so many bytes is about to be sent. -/
  | submitting (endpoint : String) (bytes : Nat)
  /-- The service could not be reached. -/
  | requestFailed (endpoint : String) (fault : String)
  /-- The service answered with an analysis of so many tokens. -/
  | succeeded (status : Nat) (tokens : Nat)
  /-- The service answered with a complaint. -/
  | rejected (status : Nat) (detail : String)
  /-- The service's answer could not be understood. -/
  | unreadable (status : Nat) (fault : String)
  /-- An outcome is put on display. -/
  | applying (id : Nat) (success : Bool)
  /-- A request ended without an outcome. -/
  | noOutcome (id : Nat) (fault : String)
  /-- There is no source to submit. -/
  | emptySource
  /-- A source of so many bytes reached the clipboard. -/
  | copied (bytes : Nat)
  /-- The source did not reach the clipboard. -/
  | copyFailed (fault : String)
  /-- No worker could be started for a request. -/
  | noWorker (id : Nat) (cause : String)
  deriving DecidableEq, Repr

namespace Event

/-- The level of an event. -/
def level : Event → Level
  | .starting _ | .submitting .. | .succeeded .. | .rejected .. => .info
  | .requestFailed .. | .unreadable .. | .noWorker .. => .error
  | .applying .. | .noOutcome .. | .emptySource | .copied _ => .debug
  | .copyFailed _ => .warn

/-- The part of the program an event comes from. -/
def source : Event → String
  | .starting _ => "lexzig_ui"
  | .submitting .. | .requestFailed .. | .succeeded .. | .rejected .. | .unreadable .. =>
    "lexzig_ui::client::analysis"
  | .copied _ => "lexzig_ui::editor"
  | .applying .. | .noOutcome .. | .emptySource | .copyFailed _ | .noWorker .. =>
    "lexzig_ui::ui::state"

/-- The message of an event, without its fields. -/
def message : Event → String
  | .starting _ => "starting lexzig-ui"
  | .submitting .. => "submitting analysis"
  | .requestFailed .. => "analysis request failed"
  | .succeeded .. => "analysis succeeded"
  | .rejected .. => "analysis rejected"
  | .unreadable .. => "unreadable analysis response"
  | .applying .. => "applying analysis result"
  | .noOutcome .. => "analysis produced no result"
  | .emptySource => "empty buffer, nothing to analyse"
  | .copied _ => "copied source to clipboard"
  | .copyFailed _ => "copy to clipboard failed"
  | .noWorker .. => "failed to spawn analysis thread"

/-- The fields of an event, in the order they are written. -/
def fields : Event → List (String × String)
  | .starting endpoint => [("api_url", endpoint)]
  | .submitting endpoint bytes => [("endpoint", endpoint), ("code_len", toString bytes)]
  | .requestFailed endpoint fault => [("endpoint", endpoint), ("error", fault)]
  | .succeeded status tokens => [("status", toString status), ("tokens", toString tokens)]
  | .rejected status detail => [("status", toString status), ("detail", detail)]
  | .unreadable status fault => [("status", toString status), ("error", fault)]
  | .applying id success => [("request_id", toString id), ("success", toString success)]
  | .noOutcome id fault => [("request_id", toString id), ("error", fault)]
  | .emptySource => []
  | .copied bytes => [("len", toString bytes)]
  | .copyFailed fault => [("error", fault)]
  | .noWorker id cause => [("request_id", toString id), ("error", cause)]

/-- The line of an event, with its newline. -/
def line (event : Event) : String :=
  let fields := event.fields.map fun (name, value) => " " ++ name ++ "=" ++ value
  " " ++ event.level.label ++ " " ++ event.message ++ String.join fields ++ "\n"

end Event
end AnalysisDesk.Journal
