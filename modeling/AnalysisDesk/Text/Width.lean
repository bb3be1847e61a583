import AnalysisDesk.Text.Cluster
import AnalysisDesk.Text.Wide

/-! # Width of a cluster
How many cells of a terminal a cluster takes. A character takes none, one or two; emoji that are
drawn as one picture (with a presentation selector, with a skin tone, or joined) take two together,
which is why a cluster is measured from its end. -/

namespace AnalysisDesk.Text

/-- Code points that take no cell although they are no marks: invisible format characters, vowels
and trailing consonants of Hangul, and a few signs drawn on their neighbours. -/
def hiddenRanges : List CodeRange :=
  [(0x00AD, 0x00AD), (0x0605, 0x0605), (0x061C, 0x061C), (0x070F, 0x070F), (0x0890, 0x0891),
   (0x08E2, 0x08E2), (0x1160, 0x11FF), (0x180E, 0x180E), (0x200B, 0x200B), (0x200D, 0x200F),
   (0x202A, 0x202E), (0x2060, 0x206F), (0x3164, 0x3164), (0xA8FA, 0xA8FA), (0xD7B0, 0xD7C6),
   (0xD7CB, 0xD7FB), (0xFEFF, 0xFEFF), (0xFFA0, 0xFFA0), (0xFFF0, 0xFFF8), (0x1BCA0, 0x1BCA3),
   (0x1D173, 0x1D17A), (0xE0000, 0xE001F), (0xE0080, 0xE00FF), (0xE01F0, 0xE0FFF)]

/-- The cells a character takes by itself; a control takes one. -/
def charWidth (c : Char) : Nat :=
  if c.toNat < 0xA0 then 1
  else if isExtending c || covers hiddenRanges c.toNat then 0
  else if isWide c then 2
  else 1

/-- What the characters after a place amount to, read from the end of a cluster. -/
inductive Trail
  /-- Nothing that changes the width of what comes before. -/
  | plain
  /-- The selector U+FE0F, which asks for a picture. -/
  | picture
  /-- The selector U+FE0F before a joiner and an emoji. -/
  | pictureJoined
  /-- The selector U+FE0E, which asks for text. -/
  | text
  /-- A skin tone, already counted. -/
  | tone
  /-- A complete emoji, already counted. -/
  | emoji
  /-- A joiner before a complete emoji. -/
  | joined
  deriving DecidableEq, Repr

/-- Whether a character is drawn as a picture of two cells without being asked to. -/
def isPicture (c : Char) : Bool := isPictograph c && isWide c

/-- The cells that `c` adds before a trail, and the trail before `c`. -/
def Trail.before (trail : Trail) (c : Char) : Nat × Trail :=
  if c.toNat = 0x200D then (0, if trail = .emoji || trail = .tone then .joined else .plain)
  else if c.toNat = 0xFE0F then (0, if trail = .joined then .pictureJoined else .picture)
  else if c.toNat = 0xFE0E then (0, .text)
  else if isSkinTone c then (if trail = .joined then 0 else 2, .tone)
  else if isPicture c then
    match trail with
    | .text => (1, .plain)
    | .tone => if isToned c then (0, .emoji) else (2, .emoji)
    | .joined | .pictureJoined => (0, .emoji)
    | _ => (2, .emoji)
  else if isTextEmoji c then
    match trail with
    | .picture => (2, .emoji)
    | .pictureJoined => (0, .emoji)
    | .tone => if isToned c then (0, .emoji) else (charWidth c, .plain)
    | _ => (charWidth c, .plain)
  else (charWidth c, .plain)

/-- The cells of the characters in reverse order before a trail. -/
def widthBefore (trail : Trail) : List Char → Nat
  | [] => 0
  | c :: earlier =>
    let (cells, trail) := trail.before c
    cells + widthBefore trail earlier

/-- The cells that a cluster takes; a return with its newline takes one. -/
def clusterWidth (cluster : List Char) : Nat :=
  if cluster = ['\r', '\n'] then 1 else widthBefore .plain cluster.reverse

@[simp] theorem clusterWidth_nil : clusterWidth [] = 0 := rfl

/-- A printable ASCII character takes one cell. -/
theorem charWidth_ascii {c : Char} (h : c.toNat < 0xA0) : charWidth c = 1 := by
  simp [charWidth, h]

end AnalysisDesk.Text
