import AnalysisDesk.Text.Extending
import AnalysisDesk.Text.Pictograph
import AnalysisDesk.Text.Spacing

/-! # Clusters
A cluster is what a reader sees as one character: a base with its marks, a syllable of Hangul, a
flag, or pictographs joined into one. `clusters` cuts a text between two characters wherever the
rules for extended grapheme clusters do not forbid it; nothing is lost on the way. -/

namespace AnalysisDesk.Text

/-- The class of a character in the rules for cluster breaks. -/
inductive BreakClass
  /-- A character none of the rules names. -/
  | other
  | carriageReturn
  | lineFeed
  /-- A control, format or separator character, alone in its cluster. -/
  | control
  /-- A mark on the character before it. -/
  | extend
  /-- The zero-width joiner U+200D. -/
  | joiner
  /-- Half of a flag. -/
  | regional
  /-- A sign that belongs to the character after it. -/
  | prepended
  /-- A spacing mark. -/
  | spacing
  /-- A leading consonant of Hangul. -/
  | leading
  /-- A vowel of Hangul. -/
  | vowel
  /-- A trailing consonant of Hangul. -/
  | trailing
  /-- A syllable of Hangul without a trailing consonant. -/
  | openSyllable
  /-- A syllable of Hangul with a trailing consonant. -/
  | closedSyllable
  /-- A pictograph. -/
  | pictograph
  deriving DecidableEq, Repr

/-- The code points that stand alone as controls, but for the return and the newline. -/
def controlRanges : List CodeRange :=
  [(0x0000, 0x001F), (0x007F, 0x009F), (0x00AD, 0x00AD), (0x061C, 0x061C), (0x180E, 0x180E),
   (0x200B, 0x200B), (0x200E, 0x200F), (0x2028, 0x202E), (0x2060, 0x206F), (0xFEFF, 0xFEFF),
   (0xFFF0, 0xFFFB), (0x13430, 0x1343F), (0x1BCA0, 0x1BCA3), (0x1D173, 0x1D17A),
   (0xE0000, 0xE001F), (0xE0080, 0xE00FF), (0xE01F0, 0xE0FFF)]

/-- The code points that belong to the character after them. -/
def prependRanges : List CodeRange :=
  [(0x0600, 0x0605), (0x06DD, 0x06DD), (0x070F, 0x070F), (0x0890, 0x0891), (0x08E2, 0x08E2),
   (0x0D4E, 0x0D4E), (0x110BD, 0x110BD), (0x110CD, 0x110CD), (0x111C2, 0x111C3),
   (0x1193F, 0x1193F), (0x11941, 0x11941), (0x11A3A, 0x11A3A), (0x11A84, 0x11A89),
   (0x11D46, 0x11D46), (0x11F02, 0x11F02)]

/-- Half of a flag: a regional indicator letter. -/
def isRegional (c : Char) : Bool := 0x1F1E6 ≤ c.toNat && c.toNat ≤ 0x1F1FF

/-- A skin tone, drawn on the pictograph before it. -/
def isSkinTone (c : Char) : Bool := 0x1F3FB ≤ c.toNat && c.toNat ≤ 0x1F3FF

/-- The class of a character that is neither ASCII nor a control. -/
def BreakClass.ofPlain (c : Char) : BreakClass :=
  let code := c.toNat
  if code = 0x200D then .joiner
  else if isSkinTone c || isExtending c then .extend
  else if isRegional c then .regional
  else if covers prependRanges code then .prepended
  else if isSpacing c then .spacing
  else if (0x1100 ≤ code && code ≤ 0x115F) || (0xA960 ≤ code && code ≤ 0xA97C) then .leading
  else if (0x1160 ≤ code && code ≤ 0x11A7) || (0xD7B0 ≤ code && code ≤ 0xD7C6) then .vowel
  else if (0x11A8 ≤ code && code ≤ 0x11FF) || (0xD7CB ≤ code && code ≤ 0xD7FB) then .trailing
  else if 0xAC00 ≤ code && code ≤ 0xD7A3 then
    if (code - 0xAC00) % 28 = 0 then .openSyllable else .closedSyllable
  else if isPictograph c then .pictograph
  else .other

/-- The class of a character. -/
def BreakClass.of (c : Char) : BreakClass :=
  if c = '\r' then .carriageReturn
  else if c = '\n' then .lineFeed
  else if 0x20 ≤ c.toNat && c.toNat ≤ 0x7E then .other
  else if covers controlRanges c.toNat then .control
  else .ofPlain c

/-- The consonants of the scripts that write clusters of consonants with a linking sign. -/
def consonantRanges : List CodeRange :=
  [(0x0915, 0x0939), (0x0958, 0x095F), (0x0978, 0x097F), (0x0995, 0x09A8), (0x09AA, 0x09B0),
   (0x09B2, 0x09B2), (0x09B6, 0x09B9), (0x09DC, 0x09DD), (0x09DF, 0x09DF), (0x09F0, 0x09F1),
   (0x0A95, 0x0AA8), (0x0AAA, 0x0AB0), (0x0AB2, 0x0AB3), (0x0AB5, 0x0AB9), (0x0AF9, 0x0AF9),
   (0x0B15, 0x0B28), (0x0B2A, 0x0B30), (0x0B32, 0x0B33), (0x0B35, 0x0B39), (0x0B5C, 0x0B5D),
   (0x0B5F, 0x0B5F), (0x0B71, 0x0B71), (0x0C15, 0x0C28), (0x0C2A, 0x0C39), (0x0C58, 0x0C5A),
   (0x0D15, 0x0D3A)]

/-- The signs that link two consonants into one cluster. -/
def linkerCodes : List Nat := [0x094D, 0x09CD, 0x0ACD, 0x0B4D, 0x0C4D, 0x0D4D]

/-- How far the text before a place has come towards two linked consonants. -/
inductive Linking
  /-- No consonant, or something after it that breaks the link. -/
  | none
  /-- A consonant, perhaps with marks. -/
  | consonant
  /-- A consonant with a linking sign, perhaps with marks. -/
  | linked
  deriving DecidableEq, Repr

/-- What the rules look at before a place: the class of the last character and what led to it. -/
structure Seam where
  /-- The class of the last character. -/
  last : BreakClass
  /-- Whether a pictograph came last, or before marks alone, or before marks and a joiner. -/
  afterPictograph : Bool
  /-- Whether an odd number of flag halves came last. -/
  halfFlag : Bool
  /-- The link of consonants so far. -/
  linking : Linking
  deriving DecidableEq, Repr

/-- The link after one more character. -/
def Linking.next (linking : Linking) (c : Char) (class_ : BreakClass) : Linking :=
  if covers consonantRanges c.toNat then .consonant
  else match linking with
    | .none => .none
    | .consonant =>
      if linkerCodes.contains c.toNat then .linked
      else if class_ = .extend || class_ = .joiner then .consonant else .none
    | .linked => if class_ = .extend || class_ = .joiner then .linked else .none

/-- The seam after the first character of a text. -/
def Seam.start (c : Char) : Seam :=
  let class_ := BreakClass.of c
  { last := class_
    afterPictograph := class_ = .pictograph
    halfFlag := class_ = .regional
    linking := Linking.none.next c class_ }

/-- The seam after one more character. -/
def Seam.next (seam : Seam) (c : Char) : Seam :=
  let class_ := BreakClass.of c
  { last := class_
    afterPictograph :=
      class_ = .pictograph ||
        (seam.afterPictograph && seam.last ≠ .joiner && (class_ = .extend || class_ = .joiner))
    halfFlag := class_ = .regional && !seam.halfFlag
    linking := seam.linking.next c class_ }

/-- Whether a class ends every cluster it is in and begins one of its own. -/
def BreakClass.standsAlone : BreakClass → Bool
  | .carriageReturn | .lineFeed | .control => true
  | _ => false

/-- Whether two parts of Hangul syllables in a row belong together. -/
def BreakClass.joinsSyllable : BreakClass → BreakClass → Bool
  | .leading, .leading | .leading, .vowel | .leading, .openSyllable | .leading, .closedSyllable => true
  | .openSyllable, .vowel | .openSyllable, .trailing | .vowel, .vowel | .vowel, .trailing => true
  | .closedSyllable, .trailing | .trailing, .trailing => true
  | _, _ => false

/-- Whether the rules forbid a break between the seam and the next character. -/
def Seam.joins (seam : Seam) (c : Char) : Bool :=
  let class_ := BreakClass.of c
  if seam.last = .carriageReturn && class_ = .lineFeed then true
  else if seam.last.standsAlone || class_.standsAlone then false
  else
    seam.last.joinsSyllable class_
    || class_ = .extend || class_ = .joiner || class_ = .spacing
    || seam.last = .prepended
    || (seam.linking = .linked && covers consonantRanges c.toNat)
    || (seam.last = .joiner && seam.afterPictograph && class_ = .pictograph)
    || (seam.last = .regional && class_ = .regional && seam.halfFlag)

/-- The clusters of `rest` after a seam, the first of them begun with `open_` in reverse. -/
def clustersFrom (seam : Seam) (open_ : List Char) : List Char → List (List Char)
  | [] => [open_.reverse]
  | c :: rest =>
    if seam.joins c then clustersFrom (seam.next c) (c :: open_) rest
    else open_.reverse :: clustersFrom (seam.next c) [c] rest

/-- The clusters of a text, in order. -/
def clusters : List Char → List (List Char)
  | [] => []
  | c :: rest => clustersFrom (.start c) [c] rest

@[simp] theorem clusters_nil : clusters [] = [] := rfl

/-- The clusters after a seam hold the begun cluster and the rest. -/
theorem flatten_clustersFrom (seam : Seam) (open_ rest : List Char) :
    (clustersFrom seam open_ rest).flatten = open_.reverse ++ rest := by
  induction rest generalizing seam open_ with
  | nil => simp [clustersFrom]
  | cons c rest ih =>
    unfold clustersFrom
    split <;> simp [ih]

/-- The clusters of a text hold its characters in order. -/
@[simp] theorem flatten_clusters (text : List Char) : (clusters text).flatten = text := by
  cases text with
  | nil => rfl
  | cons c rest => simp [clusters, flatten_clustersFrom]

end AnalysisDesk.Text
