import AnalysisDesk.Journal.Event
import AnalysisDesk.Text.Blank

/-! # Journal filters
A filter is a list of directives between commas, each a level for the whole program or for the
parts whose names begin with a given one. For an event the directive with the longest name that its
source begins with decides; a source that no directive names is not written. -/

namespace AnalysisDesk.Journal

/-- A directive: the sources it is for, and the highest rank that is written. -/
structure Directive where
  /-- How the sources' names begin, none for every source. -/
  source : Option String
  /-- The highest rank that is written; zero writes nothing. -/
  rank : Nat
  deriving DecidableEq, Repr

/-- A list of directives. -/
abbrev Filter := List Directive

/-- The rank that a level's name stands for. -/
def rankWord? (name : String) : Option Nat :=
  match name.toLower with
  | "off" => some 0
  | "error" => some 1
  | "warn" => some 2
  | "info" => some 3
  | "debug" => some 4
  | "trace" => some 5
  | _ => none

/-- The rank that a number stands for: up to five, perhaps behind a plus sign. -/
def rankNumber? (text : List Char) : Option Nat :=
  let digits := match text with
    | '+' :: rest => rest
    | _ => text
  if digits.isEmpty || !digits.all Char.isDigit then none
  else
    let value := digits.foldl (fun value c => value * 10 + (c.toNat - '0'.toNat)) 0
    if value ≤ Level.trace.rank then some value else none

/-- The rank that a level's name or number stands for. -/
def rankNamed? (name : String) : Option Nat := (rankNumber? name.toList).or (rankWord? name)

/-- Whether a character may begin a directive; beyond ASCII every character may. -/
def isDirectiveStart (c : Char) : Bool :=
  c.isAlphanum || c = '_' || c = ':' || c = '-' || c = '[' || 0x7F < c.toNat

/-- Whether a name is in order: brackets, which name what an event would have to happen in, close at
its end. No event happens in anything, so a name with brackets is for none. -/
def isNameInOrder (name : String) : Bool :=
  !name.toList.contains '[' || name.toList.getLast? = some ']'

/-- A directive: a level alone, a source alone, or a source with a level. A source without a level
is written whole. Blanks around it belong to it, and a level may not have any before it. -/
def Directive.read? (text : String) : Option Directive :=
  if !(Text.trimBlank text.toList).head?.any isDirectiveStart then none
  else match text.splitOn "=" with
    | [one] =>
      match rankNamed? one with
      | some rank => some ⟨none, rank⟩
      | none => if isNameInOrder one then some ⟨some one, Level.trace.rank⟩ else none
    | [source, level] =>
      if !isNameInOrder source || source.toList.head?.any Text.isBlank then none
      else if level.isEmpty then some ⟨some source, Level.trace.rank⟩
      else (rankNamed? level).map fun rank => ⟨some source, rank⟩
    | _ => none

/-- A filter; empty directives are passed over, and a filter without any writes nothing. -/
def Filter.read? (text : String) : Option Filter :=
  ((text.splitOn ",").filter fun directive => !directive.isEmpty).mapM Directive.read?

/-- The filter that writes everything from `info` up. -/
def Filter.standard : Filter := [⟨none, Level.info.rank⟩]

/-- The filter of a setting: none, or one that cannot be read, is the standard one. -/
def Filter.ofSetting (setting : Option String) : Filter :=
  (setting.bind Filter.read?).getD Filter.standard

namespace Directive

/-- Whether a directive is for a source. -/
def isFor (directive : Directive) (source : String) : Bool :=
  match directive.source with
  | none => true
  | some name => name.toList.isPrefixOf source.toList

/-- How closely a directive names its sources. -/
def closeness (directive : Directive) : Nat :=
  match directive.source with
  | none => 0
  | some name => name.utf8ByteSize + 1

end Directive

/-- The directive that decides for a source: the closest, and of two as close the later one. -/
def Filter.deciding (filter : Filter) (source : String) : Option Directive :=
  (filter.filter (·.isFor source)).foldl
    (fun best directive =>
      match best with
      | none => some directive
      | some held => if held.closeness ≤ directive.closeness then some directive else some held)
    none

/-- Whether an event is written. -/
def Filter.admits (filter : Filter) (event : Event) : Bool :=
  match filter.deciding event.source with
  | none => false
  | some directive => event.level.rank ≤ directive.rank

/-- What a filter lets through of some events, line by line. -/
def Filter.transcript (filter : Filter) (events : List Event) : String :=
  String.join ((events.filter filter.admits).map Event.line)

end AnalysisDesk.Journal
