import AnalysisDesk.Desk.Key

/-! # What each key is bound to
A few keys stand for a command in every panel. They are looked at first, so that a panel gets only the
keys that are not among them: the editor takes edits, with Control and Alt both held or neither, and
the viewers take moves over their lines. -/

namespace AnalysisDesk.Desk

open AnalysisDesk.Editor (Edit)

namespace Key

/-- The keys that call for a command in every panel. -/
def Calls (key : Key) : Command → Prop
  | .quit => key.modifiers.control = true ∧ (key.code = .char 'c' ∨ key.code = .char 'q')
  | .submit => (key.modifiers.control = true ∧ key.code = .char 'r') ∨ key.code = .function 5
  | .copy => (key.modifiers.control = true ∧ key.code = .char 'y') ∨ key.code = .function 6
  | .cyclePanel => key.code = .function 2 ∨ key.code = .backTab
  | .edit _ => False
  | .scroll _ => False

/-- A key that calls for some command in every panel. -/
def Global (key : Key) : Prop := ∃ command, key.Calls command

/-- What a key that goes down or stays down asks for in a panel. -/
inductive Asks (key : Key) (panel : Panel) : Command → Prop
  /-- A key that works everywhere. -/
  | everywhere {command : Command} (calls : key.Calls command) : Asks key panel command
  /-- An edit, in the editor. -/
  | edit (free : ¬key.Global) (editor : panel = .editor)
      (even : key.modifiers.control = key.modifiers.alt) {e : Edit}
      (stands : key.code.edit? = some e) : Asks key panel (.edit e)
  /-- A move over the lines, in a viewer. -/
  | scroll (free : ¬key.Global) (viewer : panel ≠ .editor) {move : Scroll}
      (stands : key.code.scroll? = some move) : Asks key panel (.scroll move)

variable {key : Key} {panel : Panel} {command : Command}

/-- The keys that work everywhere, found by their codes. -/
theorem globalCommand?_eq_some_iff :
    key.code.globalCommand? key.modifiers.control = some command ↔ key.Calls command := by
  obtain ⟨code, modifiers, kind⟩ := key
  unfold KeyCode.globalCommand?
  cases code with
  | char c =>
    -- Without Control a character works nowhere but in the editor.
    cases held : modifiers.control with
    | false => cases command <;> simp [Calls, held]
    | true =>
      simp only [Bool.or_eq_true, decide_eq_true_eq, if_true]
      cases command <;> simp only [Calls, held, KeyCode.char.injEq, reduceCtorEq] <;> grind
  | function n =>
    cases command <;> simp only [Calls, KeyCode.function.injEq, reduceCtorEq] <;> grind
  | _ => cases command <;> simp [Calls]

/-- All other keys are left to the panels. -/
theorem globalCommand?_eq_none_iff :
    key.code.globalCommand? key.modifiers.control = none ↔ ¬key.Global := by
  simp only [Global, ← globalCommand?_eq_some_iff, Option.eq_none_iff_forall_ne_some, not_exists,
    ne_eq]

/-- What a panel makes of a key that is left to it. -/
theorem panelCommand?_eq_some_iff (free : ¬key.Global) :
    key.panelCommand? panel = some command ↔ key.Asks panel command := by
  constructor
  · intro found
    cases panel with
    | editor =>
      simp only [panelCommand?, Option.ite_none_left_eq_some, Option.map_eq_some_iff, bne_iff_ne,
        Decidable.not_not] at found
      obtain ⟨even, e, stands, rfl⟩ := found
      exact .edit free rfl even stands
    | tokens | tree =>
      obtain ⟨move, stands, rfl⟩ := Option.map_eq_some_iff.mp found
      exact .scroll free (by decide) stands
  · intro asks
    cases asks with
    | everywhere calls => exact absurd ⟨command, calls⟩ free
    | edit _ editor even stands => simp [panelCommand?, editor, even, stands]
    | scroll _ viewer stands =>
      cases panel with
      | editor => exact absurd rfl viewer
      | tokens | tree => simp [panelCommand?, stands]

/-- **What a key asks for** is what it is bound to, unless it comes up. -/
theorem command?_eq_some_iff :
    key.command? panel = some command ↔ key.kind ≠ .release ∧ key.Asks panel command := by
  by_cases up : key.kind = .release
  · simp [command?, up]
  · unfold command?
    rw [if_neg up, and_iff_right up]
    cases found : key.code.globalCommand? key.modifiers.control with
    | some called =>
      have calls := globalCommand?_eq_some_iff.mp found
      constructor
      · rintro ⟨⟩
        exact .everywhere calls
      · intro asks
        -- The panels do not get to see a key that works everywhere.
        cases asks with
        | everywhere calls' => exact found.symm.trans (globalCommand?_eq_some_iff.mpr calls')
        | edit free | scroll free => exact absurd ⟨called, calls⟩ free
    | none => exact panelCommand?_eq_some_iff (globalCommand?_eq_none_iff.mp found)

/-! ## Typing -/

/-- A key that puts in a character: a character key that goes down or stays down, with Control and
Alt both held or neither, and not bound to anything else. -/
structure Types (key : Key) (c : Char) : Prop where
  code_eq : key.code = .char c
  down : key.kind ≠ .release
  even : key.modifiers.control = key.modifiers.alt
  free : ¬key.Global

/-- Without Control and Alt every character key puts in its character. -/
theorem types_of_plain {c : Char} (code_eq : key.code = .char c) (down : key.kind ≠ .release)
    (control : key.modifiers.control = false) (alt : key.modifiers.alt = false) : key.Types c where
  code_eq := code_eq
  down := down
  even := control.trans alt.symm
  free := by
    rintro ⟨command, calls⟩
    cases command <;> simp [Calls, code_eq, control] at calls

/-- In the editor, such a key asks for its character. -/
theorem Types.command?_editor {c : Char} (types : key.Types c) :
    key.command? .editor = some (.edit (.char c)) := by
  have stands : key.code.edit? = some (.char c) := by rw [types.code_eq]; rfl
  exact command?_eq_some_iff.mpr ⟨types.down, .edit types.free rfl types.even stands⟩

end Key
end AnalysisDesk.Desk
