import AnalysisDesk.Text.Base64
import AnalysisDesk.Text.Utf8

/-! # Clipboard
A clipboard can only be written to. A terminal's clipboard is set by an escape sequence that
carries the text in base 64; a recorded clipboard keeps every text written to it. -/

namespace AnalysisDesk.Editor

open AnalysisDesk.Text (bytes)

/-- What goes before the encoded text in the escape sequence. -/
def clipboardOpening : List Char := ['\x1b', ']', '5', '2', ';', 'c', ';']

/-- What goes behind the encoded text in the escape sequence. -/
def clipboardClosing : List Char := ['\x1b', '\\']

/-- The escape sequence that sets a terminal's clipboard to a text. -/
def clipboardSequence (text : List Char) : List Char :=
  clipboardOpening ++ Text.Base64.encode (bytes text) ++ clipboardClosing

/-- Why a text did not reach the clipboard. -/
structure ClipboardFault where
  /-- What the terminal reported. -/
  cause : String
  deriving DecidableEq, Repr

/-- The text that reports a clipboard fault. -/
def ClipboardFault.message (fault : ClipboardFault) : String :=
  "clipboard write failed: " ++ fault.cause

/-- A clipboard: the texts written so far, and what every write reports if it cannot be written. -/
structure Clipboard where
  /-- What every write reports, none for a clipboard in order. -/
  fault : Option String
  /-- The texts written so far, the first one first. -/
  writes : List (List Char)
  deriving DecidableEq, Repr

namespace Clipboard

/-- A clipboard in order, with nothing written to it. -/
def empty : Clipboard := ⟨none, []⟩

/-- A clipboard that no text reaches. -/
def broken (cause : String) : Clipboard := ⟨some cause, []⟩

/-- Write a text. -/
def write (clipboard : Clipboard) (text : List Char) : Except ClipboardFault Clipboard :=
  match clipboard.fault with
  | some cause => .error ⟨cause⟩
  | none => .ok { clipboard with writes := clipboard.writes ++ [text] }

/-- A text that was written is the last of those written. -/
theorem writes_of_write {clipboard written : Clipboard} {text : List Char}
    (h : clipboard.write text = .ok written) : written.writes = clipboard.writes ++ [text] := by
  unfold write at h
  split at h
  · cases h
  · cases h
    rfl

end Clipboard
end AnalysisDesk.Editor
