import AnalysisDesk.Toml.Document

/-! # Configuration files
A configuration is a TOML document with a section for the service and one for the display, each
with one text. A section is a table, or an array whose first item is the text. Nothing else may
stand in it, and the first thing out of place is reported with an excerpt. -/

namespace AnalysisDesk.Settings

open AnalysisDesk.Toml (Key Node Position Span excerpt)

/-- What a configuration says. -/
structure Config where
  /-- The endpoint. -/
  apiUrl : Option String
  /-- The address of an image. -/
  imageUrl : Option String
  deriving DecidableEq, Repr

/-- A configuration that says nothing. -/
def Config.empty : Config := ⟨none, none⟩

/-! ## Faults -/

/-- What is wrong with a configuration. -/
inductive ConfigCause
  /-- It is no TOML document. -/
  | document (cause : Toml.Cause)
  /-- It has a key that nothing takes; some others would be taken. -/
  | unknownField (name : String) (expected : List String)
  /-- It has a node of another type than the expected one. -/
  | wrongType (found : Node) (expected : String)

/-- What is wrong with a configuration, and where. -/
structure ConfigFault where
  /-- The stretch of text that is wrong. -/
  span : Span
  /-- What is wrong. -/
  cause : ConfigCause

/-- A word between back quotes. -/
def named (word : String) : String := "`" ++ word ++ "`"

/-- The text for what is wrong; a document that breaks the grammar has none. -/
def ConfigCause.message? : ConfigCause → Option String
  | document (.duplicate key none) => some ("duplicate key " ++ named key)
  | document (.duplicate key (some [])) =>
    some ("duplicate key " ++ named key ++ " in document root")
  | document (.duplicate key (some path)) =>
    some ("duplicate key " ++ named key ++ " in table " ++ named (".".intercalate path))
  | document _ => none
  | unknownField name expected =>
    some ("unknown field " ++ named name ++ ", expected " ++ " or ".intercalate (expected.map named))
  | wrongType found expected =>
    some ("invalid type: " ++ found.typeWords ++ ", expected " ++ expected)

/-- The first line of a report on a text. -/
def ConfigFault.heading (fault : ConfigFault) (text : String) : String :=
  "TOML parse error at " ++ (Position.of text.toList fault.span.first).words

/-- The report on a text: where it is wrong, the line, and what is wrong if there are words for
it. -/
def ConfigFault.report (fault : ConfigFault) (text : String) : String :=
  let last := match fault.cause.message? with
    | some message => message ++ "\n"
    | none => ""
  fault.heading text ++ "\n" ++ excerpt text.toList fault.span ++ last

/-! ## Sections -/

/-- A section of a configuration. -/
inductive Section
  | api
  | ui
  deriving DecidableEq, Repr

namespace Section

/-- The key of a section. -/
def key : Section → String
  | api => "api"
  | ui => "ui"

/-- The key of the text in a section. -/
def field : Section → String
  | api => "url"
  | ui => "image_url"

/-- The words for a section that is expected. -/
def words : Section → String
  | api => "struct ApiSection"
  | ui => "struct UiSection"

/-- The key that a date has when it is taken for a table. -/
def momentKey : String := "$__toml_private_datetime"

/-- The text of a node; the key before it is at fault if the node does not stand in one place. -/
def text (keySpan : Span) : Node → Except ConfigFault String
  | .scalar (.text s) _ => .ok (String.ofList s)
  | node => .error ⟨node.span.getD keySpan, .wrongType node "a string"⟩

/-- Read a member of the table of a section. -/
def readMember (part : Section) (member : Key × Node) : Except ConfigFault String :=
  if member.1.name = part.field then text member.1.span member.2
  else .error ⟨member.1.span, .unknownField member.1.name [part.field]⟩

/-- The text of a section, if it has one. -/
def read (part : Section) (keySpan : Span) : Node → Except ConfigFault (Option String)
  | .table table => do return (← table.members.mapM part.readMember).getLast?
  | .array [] _ => .ok none
  | .array (first :: _) _ => (text keySpan first).map some
  | .tables [] => .ok none
  | .tables (first :: _) => (text keySpan (.table first)).map some
  | .scalar (.moment _) span => .error ⟨span, .unknownField momentKey [part.field]⟩
  | node => .error ⟨node.span.getD keySpan, .wrongType node part.words⟩

end Section

/-! ## Configurations -/

/-- Read a section of a configuration. -/
def Config.readSection (config : Config) (member : Key × Node) : Except ConfigFault Config := do
  if member.1.name = Section.api.key then
    return { config with apiUrl := ← Section.api.read member.1.span member.2 }
  else if member.1.name = Section.ui.key then
    return { config with imageUrl := ← Section.ui.read member.1.span member.2 }
  else .error ⟨member.1.span, .unknownField member.1.name [Section.api.key, Section.ui.key]⟩

/-- The configuration of a text. -/
def Config.read (text : String) : Except ConfigFault Config :=
  match Toml.Table.read? text.toList with
  | .error fault => .error ⟨fault.span, .document fault.cause⟩
  | .ok table => table.members.foldlM Config.readSection .empty

end AnalysisDesk.Settings
