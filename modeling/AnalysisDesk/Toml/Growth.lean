import AnalysisDesk.Toml.Cursor

/-! # Growing a table
A document's table grows by pairs and by headers. A dotted key passes through tables that only
dotted keys have made, or that longer headers imply; a header may name a table that is so far only
implied, and then the table counts from there on. Everything else is closed. -/

namespace AnalysisDesk.Toml

/-! ## Members -/

/-- The node of a key. -/
def findNode? (name : String) (members : List (Key × Node)) : Option Node :=
  (members.find? (·.1.name = name)).map (·.2)

/-- The members with another node for a key; the key stays where it stands. -/
def setNode (name : String) (node : Node) (members : List (Key × Node)) : List (Key × Node) :=
  members.map fun member => if member.1.name = name then (member.1, node) else member

/-- The members without a key. -/
def removeNode (name : String) (members : List (Key × Node)) : List (Key × Node) :=
  members.filter fun member => member.1.name != name

@[simp] theorem findNode?_nil (name : String) : findNode? name [] = none := rfl

/-- Setting a node keeps the keys and their order. -/
@[simp] theorem keys_setNode (name : String) (node : Node) (members : List (Key × Node)) :
    (setNode name node members).map (·.1) = members.map (·.1) := by
  simp only [setNode, List.map_map]
  refine List.map_congr_left fun member _ => ?_
  simp only [Function.comp_apply]
  split <;> rfl

namespace Table

/-- A table with one more member, at the end. -/
def append (table : Table) (key : Key) (node : Node) : Table :=
  table.withMembers (table.members ++ [(key, node)])

/-- A table with another node for a key. -/
def set (table : Table) (key : Key) (node : Node) : Table :=
  table.withMembers (setNode key.name node table.members)

/-- Change the last of some tables. -/
def changeLast (change : Table → Except Cause Table) : List Table → Except Cause (List Table)
  | [] => .ok []
  | [last] => do return [← change last]
  | first :: next :: more => do return first :: (← changeLast change (next :: more))

/-! ## Pairs -/

/-- Where a pair stands: under a header, whose keys are known, or between braces. -/
inductive Scope
  | header (path : List String)
  | braces
  deriving DecidableEq, Repr

/-- The table that a duplicate key is reported for. -/
def Scope.tableName : Scope → Option (List String)
  | .header path => some path
  | .braces => none

/-- What is wrong with passing through a table by a dotted key, if anything is. -/
def Scope.dottedFault? (scope : Scope) (form : Form) (key : Key) : Option Cause :=
  match form with
  | .implied | .dotted => none
  | .header => some (.duplicate key.name none)
  | .braces =>
    match scope with
    | .braces => some (.duplicate key.name none)
    | .header _ => some .closed

/-- Add a pair to a table. A key with dots ends in a table that dotted keys have made. -/
def addPair (scope : Scope) (dotted : Bool) (key : Key) (node : Node) :
    List Key → Table → Except Cause Table
  | [], table =>
    if decide (table.form = .dotted) != dotted then .error (.duplicate key.name none)
    else match findNode? key.name table.members with
      | some _ => .error (.duplicate key.name scope.tableName)
      | none => .ok (table.append key node)
  | first :: path, table =>
    match findNode? first.name table.members with
    | none => do
      return table.append first (.table (← addPair scope dotted key node path (mk .dotted none [])))
    | some (.table inner) =>
      match scope.dottedFault? inner.form first with
      | some cause => .error cause
      | none => do return table.set first (.table (← addPair scope dotted key node path inner))
    | some (.tables elements) => do
      return table.set first
        (.tables (← changeLast (addPair scope dotted key node path) elements))
    | some (.scalar ..) | some (.array ..) => .error .closed

/-! ## Headers -/

/-- Add a table with a header of its own; an implied one moves behind the others. -/
def addHeader (span : Span) (key : Key) (table : Table) : Except Cause Table :=
  match findNode? key.name table.members with
  | none => .ok (table.append key (.table (mk .header (some span) [])))
  | some (.table inner) =>
    if inner.form = .implied then
      .ok ((table.withMembers (removeNode key.name table.members)).append key
        (.table (mk .header (some span) inner.members)))
    else .error .closed
  | some _ => .error .closed

/-- Add one more of the tables of a header in double brackets. -/
def addElement (span : Span) (key : Key) (table : Table) : Except Cause Table :=
  let element := mk .header (some span) []
  match findNode? key.name table.members with
  | none => .ok (table.append key (.tables [element]))
  | some (.tables elements) => .ok (table.set key (.tables (elements ++ [element])))
  | some _ => .error .closed

/-- Change the table that the keys of a header lead to; tables that are not there yet are implied. -/
def throughHeader (change : Table → Except Cause Table) :
    List Key → Table → Except Cause Table
  | [], table => change table
  | first :: path, table =>
    match findNode? first.name table.members with
    | none => do
      return table.append first (.table (← throughHeader change path (mk .implied none [])))
    | some (.table inner) =>
      if inner.form = .braces then .error .closed
      else do return table.set first (.table (← throughHeader change path inner))
    | some (.tables elements) => do
      return table.set first (.tables (← changeLast (throughHeader change path) elements))
    | some (.scalar ..) | some (.array ..) => .error .closed

/-- A table that now stretches to a place further on. -/
def extendedTo (stop : Nat) (table : Table) : Table :=
  mk table.form (table.span.map fun span => ⟨span.first, stop⟩) table.members

end Table
end AnalysisDesk.Toml
