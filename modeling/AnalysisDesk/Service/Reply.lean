import AnalysisDesk.Json.Reader
import AnalysisDesk.Service.Outcome
import AnalysisDesk.Text.Blank

/-! # Interpreting a reply
A reply's body decides its outcome before its status does. The body is read as a record with an
optional analysis and an optional complaint, as an object or as a list of at most two; a body that
cannot be read so has neither. Only without both does the status decide. -/

namespace AnalysisDesk.Service

open AnalysisDesk.Json (Value Tree Piece)

/-- A reply of the service. -/
structure Reply where
  /-- The HTTP status. -/
  status : Nat
  /-- The body, as text. -/
  body : String
  deriving DecidableEq, Repr

/-- Whether the status is one of success. -/
def Reply.isSuccess (reply : Reply) : Bool := 200 ≤ reply.status && reply.status < 300

/-! ## The record of a body -/

/-- What a body says: an analysis, a complaint, both or neither. -/
structure Record where
  /-- The member for an analysis, none if it is absent or null. -/
  data : Option Value
  /-- The member for a complaint, none if it is absent or null. -/
  detail : Option Value
  deriving Repr

/-- The record of a body that cannot be read. -/
def Record.empty : Record := ⟨none, none⟩

/-- A value, unless it is null. -/
def present : Value → Option Value
  | .null => none
  | v => some v

/-- How deep containers may be nested inside the record. -/
def memberDepth : Nat := Json.depthLimit - 1

/-- The members of an object read so far; a member that was null has still been read. -/
structure Members where
  /-- The member for an analysis, once read. -/
  data : Option Value
  /-- The member for a complaint, once read. -/
  detail : Option Value
  deriving Repr

/-- Read one more member. Members of other names are passed over, but their names must be text. -/
def Members.add? (members : Members) (member : List Piece × Tree) : Option Members := do
  let name ← Json.decodeText? member.1
  if name = "data" then
    if members.data.isSome then none
    else return { members with data := some (← member.2.value? memberDepth) }
  else if name = "detail" then
    if members.detail.isSome then none
    else return { members with detail := some (← member.2.value? memberDepth) }
  else return members

/-- The record of the members of an object. -/
def Members.record (members : Members) : Record :=
  ⟨members.data.bind present, members.detail.bind present⟩

/-- The record of a tree, as an object or as a list. -/
def Record.ofTree? : Tree → Option Record
  | .object members => (members.foldlM Members.add? ⟨none, none⟩).map Members.record
  | .array [] => some .empty
  | .array [data] => do return ⟨present (← data.value? memberDepth), none⟩
  | .array [data, detail] => do
    return ⟨present (← data.value? memberDepth), present (← detail.value? memberDepth)⟩
  | _ => none

/-- The record of a body. -/
def Record.read? (body : String) : Option Record := do
  Record.ofTree? (← Tree.read? body.toList)

/-- The record of a body, empty if the body cannot be read. -/
def Record.ofBody (body : String) : Record := (Record.read? body).getD .empty

/-! ## The analysis in a value -/

/-- The token of a value. -/
def tokenOf : Value → Except Mismatch String
  | .text s => .ok s
  | v => .error (.type v .text)

/-- The tokens of a value. -/
def tokensOf : Value → Except Mismatch (List String)
  | .array items => items.mapM tokenOf
  | v => .error (.type v .sequence)

/-- The analysis of a value: an object with tokens and a tree, or a list of the two. -/
def Analysis.ofValue : Value → Except Mismatch Analysis
  | .object members =>
    match Json.findMember "tokens" members with
    | none => .error (.missing "tokens")
    | some tokens => do
      let tokens ← tokensOf tokens
      match Json.findMember "ast" members with
      | none => .error (.missing "ast")
      | some tree => return ⟨tokens, tree⟩
  | .array [] => .error (.short 0)
  | .array [tokens] => do
    let _ ← tokensOf tokens
    .error (.short 1)
  | .array [tokens, tree] => do return ⟨← tokensOf tokens, tree⟩
  | .array (tokens :: _ :: more) => do
    let _ ← tokensOf tokens
    .error (.long (more.length + 2))
  | v => .error (.type v .record)

/-! ## The outcome of a reply -/

/-- The text of a complaint: a string as it is, any other value in compact form. -/
def complaintText : Value → String
  | .text s => s
  | v => v.toCompact

/-- What is said of a reply without an analysis or a complaint: its status, and its body unless
that is blank. -/
def Reply.statusText (reply : Reply) : String :=
  let body := Text.trimBlank reply.body.toList
  let line := "HTTP " ++ toString reply.status
  if body.isEmpty then line else line ++ ": " ++ String.ofList body

/-- The outcome of a reply. -/
def Reply.outcome (reply : Reply) : Except Fault Outcome :=
  let record := Record.ofBody reply.body
  match record.data with
  | some data =>
    match Analysis.ofValue data with
    | .ok analysis => .ok (.success analysis)
    | .error mismatch => .error (.malformed (.mismatch mismatch))
  | none =>
    match record.detail with
    | some detail => .ok (.failure (complaintText detail))
    | none =>
      if reply.isSuccess then .error (.malformed .neither)
      else .ok (.failure reply.statusText)

end AnalysisDesk.Service
