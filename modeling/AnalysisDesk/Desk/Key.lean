import AnalysisDesk.Desk.State

/-! # Keys
What each key asks for. A few keys work in every panel; all others go to the panel that has the
keyboard, where they edit the source or move over a viewer's lines. -/

namespace AnalysisDesk.Desk

open AnalysisDesk.Editor (Edit)

/-- A key on the keyboard. -/
inductive KeyCode
  | char (c : Char)
  | enter
  | tab
  | backTab
  | backspace
  | delete
  | left
  | right
  | up
  | down
  | home
  | lineEnd
  | pageUp
  | pageDown
  | function (n : Nat)
  /-- A key nothing is bound to, such as Escape. -/
  | unbound (name : String)
  deriving DecidableEq, Repr

/-- The modifiers that can be held. -/
structure Modifiers where
  shift : Bool
  control : Bool
  alt : Bool
  super : Bool
  hyper : Bool
  meta_ : Bool
  deriving DecidableEq, Repr

/-- No modifier held. -/
def Modifiers.none : Modifiers := ⟨false, false, false, false, false, false⟩

/-- Whether a key goes down, stays down or comes up. -/
inductive KeyKind
  | press
  | repeated
  | release
  deriving DecidableEq, Repr

/-- A key with what is held and how it moves. -/
structure Key where
  code : KeyCode
  modifiers : Modifiers
  kind : KeyKind
  deriving DecidableEq, Repr

/-- Something a user asks of the desk. -/
inductive Command
  | quit
  | submit
  | copy
  | cyclePanel
  | edit (e : Edit)
  | scroll (move : Scroll)
  deriving DecidableEq, Repr

/-- How many lines a page key moves. -/
def pageLength : Nat := 10

/-- What a key asks for in every panel. -/
def KeyCode.globalCommand? (control : Bool) : KeyCode → Option Command
  | .char c =>
    if control then
      if c = 'c' || c = 'q' then some .quit
      else if c = 'r' then some .submit
      else if c = 'y' then some .copy
      else none
    else none
  | .function n =>
    if n = 5 then some .submit
    else if n = 6 then some .copy
    else if n = 2 then some .cyclePanel
    else none
  | .backTab => some .cyclePanel
  | _ => none

/-- The edit that a key stands for. -/
def KeyCode.edit? : KeyCode → Option Edit
  | .char c => some (.char c)
  | .enter => some .newline
  | .tab => some .indent
  | .backspace => some .backspace
  | .delete => some .delete
  | .left => some .left
  | .right => some .right
  | .up => some .up
  | .down => some .down
  | .home => some .home
  | .lineEnd => some .lineEnd
  | _ => none

/-- The move over a viewer's lines that a key stands for. -/
def KeyCode.scroll? : KeyCode → Option Scroll
  | .up => some (.up 1)
  | .down => some (.down 1)
  | .pageUp => some (.up pageLength)
  | .pageDown => some (.down pageLength)
  | .home => some .top
  | .lineEnd => some .bottom
  | _ => none

/-- What a key asks for in a panel. The editor ignores a key with exactly one of Control and Alt
held: both together write a character on some keyboards. -/
def Key.panelCommand? (key : Key) : Panel → Option Command
  | .editor =>
    if key.modifiers.control != key.modifiers.alt then none else key.code.edit?.map .edit
  | .tokens | .tree => key.code.scroll?.map .scroll

/-- What a key asks for; a key that comes up asks for nothing. -/
def Key.command? (key : Key) (panel : Panel) : Option Command :=
  if key.kind = .release then none
  else match key.code.globalCommand? key.modifiers.control with
    | some command => some command
    | none => key.panelCommand? panel

/-- A character key with nothing held. -/
def Key.plain (c : Char) : Key := ⟨.char c, .none, .press⟩

/-- A key that comes up asks for nothing. -/
theorem Key.command?_release {key : Key} (h : key.kind = .release) (panel : Panel) :
    key.command? panel = none := by
  simp [Key.command?, h]

end AnalysisDesk.Desk
