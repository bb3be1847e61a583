/-! # Labels in ASCII
A label of a name that has characters beyond ASCII is written in ASCII: first its ASCII characters,
then, in increasing order of their codes, where the others go. Each step is a number written with
digits of base thirty-six under thresholds that follow the steps before it. -/

namespace AnalysisDesk.Url.Punycode

/-- A digit of base thirty-six: the letters, then the digits of base ten. -/
def digit (n : Nat) : Char :=
  if n < 26 then Char.ofNat ('a'.toNat + n) else Char.ofNat ('0'.toNat + (n - 26))

/-- The threshold of a digit: its place less the bias, from one to twenty-six. -/
def threshold (place bias : Nat) : Nat := max 1 (min 26 (place - bias))

/-- A number in digits, from a place on; a digit below its threshold is the last. -/
def digits (bias : Nat) (place n : Nat) : List Char :=
  let t := threshold place bias
  if n < t then [digit n]
  else digit (t + (n - t) % (36 - t)) :: digits bias (place + 36) ((n - t) / (36 - t))
termination_by n
decreasing_by
  have positive : 1 ≤ threshold place bias := Nat.le_max_left _ _
  have smaller : (n - threshold place bias) / (36 - threshold place bias) ≤
      n - threshold place bias := Nat.div_le_self _ _
  omega

/-- Halve a number by thirty-fives until it is small, and count the places. -/
def settle (n places : Nat) : Nat × Nat :=
  if 455 < n then settle (n / 35) (places + 36) else (n, places)
termination_by n
decreasing_by omega

/-- The bias after a step; the first step counts for less. -/
def adapt (step handled : Nat) (first : Bool) : Nat :=
  let step := if first then step / 700 else step / 2
  let (n, places) := settle (step + step / handled) 0
  places + 36 * n / (n + 38)

/-- How far a label has been written. -/
structure Progress where
  /-- What is written, in reverse. -/
  written : List Char
  /-- The steps passed over since the last character. -/
  step : Nat
  /-- The bias. -/
  bias : Nat
  /-- The number of characters that are written. -/
  handled : Nat
  deriving DecidableEq, Repr

/-- Pass a character of the label while those with a code are written. -/
def pass (ascii code : Nat) (progress : Progress) (c : Char) : Progress :=
  if c.toNat < code then { progress with step := progress.step + 1 }
  else if c.toNat = code then
    let handled := progress.handled + 1
    ⟨(digits progress.bias 36 progress.step).reverse ++ progress.written, 0,
      adapt progress.step handled (progress.handled = ascii), handled⟩
  else progress

/-- Write the characters with one code after another; the number is the least code still to come. -/
def writeCodes (label : List Char) (ascii : Nat) : List Nat → Nat → Progress → Progress
  | [], _, progress => progress
  | code :: codes, least, progress =>
    let skipped := { progress with
      step := progress.step + (code - least) * (progress.handled + 1) }
    let passed := label.foldl (pass ascii code) skipped
    writeCodes label ascii codes (code + 1) { passed with step := passed.step + 1 }

/-- The codes beyond ASCII in a label, each once, in increasing order. -/
def codesBeyond (label : List Char) : List Nat :=
  ((label.map Char.toNat).filter (0x80 ≤ ·)).eraseDups.mergeSort (· ≤ ·)

/-- A label in ASCII, without the mark before it. -/
def encode (label : List Char) : List Char :=
  let ascii := label.filter (·.toNat < 0x80)
  let opening := if ascii.isEmpty then [] else ascii ++ ['-']
  let progress := writeCodes label ascii.length (codesBeyond label) 0x80
    ⟨opening.reverse, 0, 72, ascii.length⟩
  progress.written.reverse

/-- A label in ASCII, with a mark before it if it needed one. -/
def label (text : List Char) : List Char :=
  if text.all (·.toNat < 0x80) then text else "xn--".toList ++ encode text

/-- A label of ASCII characters stays as it is. -/
theorem label_of_ascii {text : List Char} (h : text.all (·.toNat < 0x80) = true) :
    label text = text := by
  simp [label, h]

end AnalysisDesk.Url.Punycode
