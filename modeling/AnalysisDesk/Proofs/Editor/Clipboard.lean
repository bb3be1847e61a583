import AnalysisDesk.Editor.Clipboard
import AnalysisDesk.Proofs.Text.Base64
import Mathlib.Data.List.Basic

/-! # What the terminal is told to copy
A text reaches the terminal's clipboard inside an escape sequence. Its base 64 form holds nothing
that a terminal could take for the end of the sequence, and the text can be read from it again. -/

namespace AnalysisDesk.Editor

open AnalysisDesk.Text (bytes bytes_injective)
open AnalysisDesk.Text.Base64 (Spells spells_encode decode?_encode)

/-- The sequence of a text: what goes before the base 64 form of its bytes, and what goes behind. -/
theorem clipboardSequence_eq (text : List Char) :
    clipboardSequence text =
      "\x1b]52;c;".toList ++ Text.Base64.encode (bytes text) ++ "\x1b\\".toList := rfl

/-- A standard form holds no escape character. -/
theorem escape_notMem_of_spells {payload : List Char} {content : List UInt8}
    (h : Spells payload content) : '\x1b' ∉ payload := by
  intro member
  rcases h.mem member with digit | pad
  · exact absurd digit (by decide)
  · exact absurd pad (by decide)

/-- The sequences of two texts differ: what is between their frames is read as their bytes. -/
theorem clipboardSequence_injective : Function.Injective clipboardSequence := by
  intro left right same
  have encoded : Text.Base64.encode (bytes left) = Text.Base64.encode (bytes right) :=
    List.append_cancel_left (List.append_cancel_right same)
  have decoded := congrArg Text.Base64.decode? encoded
  rw [decode?_encode, decode?_encode, Option.some.injEq] at decoded
  exact bytes_injective decoded

/-- **The escape sequence carries its text whole** and cannot be left early: between its frame
stands the standard base 64 form of the text's bytes, the frame has the only two escape characters,
and no other text has the same sequence. -/
theorem clipboardSequence_lossless (text : List Char) :
    (∃ payload, clipboardSequence text = "\x1b]52;c;".toList ++ payload ++ "\x1b\\".toList ∧
      Spells payload (bytes text) ∧ '\x1b' ∉ payload ∧
      (clipboardSequence text).count '\x1b' = 2) ∧
    Function.Injective clipboardSequence := by
  have spells := spells_encode (bytes text)
  have inside := escape_notMem_of_spells spells
  refine ⟨⟨_, clipboardSequence_eq text, spells, inside, ?_⟩, clipboardSequence_injective⟩
  rw [clipboardSequence_eq, List.count_append, List.count_append, List.count_eq_zero.mpr inside]
  rfl

/-- A text of escapes and a character beyond ASCII. -/
example : clipboardSequence ['\x1b', '\\', '\x07', 'é'] = "\x1b]52;c;G1wHw6k=\x1b\\".toList := by
  decide

end AnalysisDesk.Editor
