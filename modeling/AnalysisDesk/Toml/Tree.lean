import AnalysisDesk.Number.Layout
import AnalysisDesk.Text.Quoted
import AnalysisDesk.Toml.Place

/-! # TOML trees
A document is a table of tables and values. Each key and each written value knows the stretch of
text it was read from. A table also knows how it came about, since that decides whether later lines
may add to it. -/

namespace AnalysisDesk.Toml

open AnalysisDesk.Number (Binary64 Layout)

/-- A key, and where it stands. -/
structure Key where
  /-- The key itself, without quotes. -/
  name : String
  /-- Where it stands, with its quotes. -/
  span : Span
  deriving DecidableEq, Repr

/-- A real number of a document. -/
inductive Real
  | finite (x : Binary64)
  | infinite (negative : Bool)
  | undefined
  deriving DecidableEq, Repr

/-- A value without parts. -/
inductive Scalar
  | text (s : List Char)
  | integer (n : Int)
  | real (x : Real)
  | boolean (b : Bool)
  /-- A date, a time or both, as written. -/
  | moment (written : List Char)
  deriving DecidableEq, Repr

/-- How a table came about. -/
inductive Form
  /-- It has a header of its own, or is the document itself. -/
  | header
  /-- A longer header passes through it. -/
  | implied
  /-- A dotted key passes through it. -/
  | dotted
  /-- It is written between braces. -/
  | braces
  deriving DecidableEq, Repr

mutual

/-- Something that a key stands for. -/
inductive Node
  | scalar (value : Scalar) (span : Span)
  | array (items : List Node) (span : Span)
  | table (table : Table)
  /-- The tables of headers in double brackets. -/
  | tables (elements : List Table)

/-- A table: how it came about, where it stands, and its members in order. -/
inductive Table
  | mk (form : Form) (span : Option Span) (members : List (Key × Node))

end

namespace Table

/-- How a table came about. -/
def form : Table → Form
  | mk form _ _ => form

/-- Where a table stands, if it is written in one place. -/
def span : Table → Option Span
  | mk _ span _ => span

/-- The members of a table in order. -/
def members : Table → List (Key × Node)
  | mk _ _ members => members

/-- An empty document. -/
def document : Table := mk .header none []

/-- A table with other members. -/
def withMembers (table : Table) (members : List (Key × Node)) : Table :=
  mk table.form table.span members

@[simp] theorem members_withMembers (table : Table) (members : List (Key × Node)) :
    (table.withMembers members).members = members := rfl

end Table

/-- The stretch from the beginning of the first table to the end of the last. -/
def spanOfTables (elements : List Table) : Option Span := do
  return ⟨(← (← elements.head?).span).first, (← (← elements.getLast?).span).stop⟩

/-- Where a node stands, if it is written in one place. -/
def Node.span : Node → Option Span
  | .scalar _ span => some span
  | .array _ span => some span
  | .table t => t.span
  | .tables elements => spanOfTables elements

/-- A real number in a diagnostic: all digits in place, with a point. -/
def Real.write : Real → String
  | .finite x => String.ofList (x.write Layout.positional)
  | .infinite false => "inf"
  | .infinite true => "-inf"
  | .undefined => "NaN"

/-- The words for the type of a node; a date counts as a table of its own. -/
def Node.typeWords : Node → String
  | .scalar (.text s) _ => "string " ++ Text.quoted (String.ofList s)
  | .scalar (.integer n) _ => "integer `" ++ String.ofList (Number.signedDigits n) ++ "`"
  | .scalar (.real x) _ => "floating point `" ++ x.write ++ "`"
  | .scalar (.boolean b) _ => "boolean `" ++ toString b ++ "`"
  | .scalar (.moment _) _ => "map"
  | .array .. => "sequence"
  | .table _ => "map"
  | .tables _ => "sequence"

end AnalysisDesk.Toml
