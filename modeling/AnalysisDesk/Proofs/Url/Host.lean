import AnalysisDesk.Proofs.Json.Numeral
import AnalysisDesk.Proofs.Text.Trim
import AnalysisDesk.Url.Host
import Mathlib.Tactic.SplitIfs

/-! # Hosts that are read
However names are written in ASCII, a host in ASCII that has no percent signs and no marks is taken
as it stands, in small letters. Two kinds of such hosts are always read: names whose last label
begins with a letter, and addresses of four bytes. -/

namespace AnalysisDesk.Url

open AnalysisDesk.Number (decimalDigits)
open AnalysisDesk.Text (bytes)

/-! ## Texts without percent signs -/

/-- Without percent signs there is nothing to decode. -/
theorem decodeBytes_of_notMem {text : List Char} (free : '%' ∉ text) :
    decodeBytes text = bytes text := by
  induction text with
  | nil => rfl
  | cons c rest ih =>
    rw [List.mem_cons, not_or] at free
    -- The equation for a percent sign does not apply.
    have step : decodeBytes (c :: rest) = bytes [c] ++ decodeBytes rest := by
      rw [decodeBytes]
      rintro high low behind rfl
      exact absurd rfl free.1
    rw [step, ih free.2, ← List.singleton_append (x := c)]
    exact List.flatMap_append.symm

/-- The bytes of a text are those of that text. -/
theorem fromUTF8?_bytes (text : List Char) :
    String.fromUTF8? ⟨(bytes text).toArray⟩ = some (String.ofList text) := by
  have encoded : (⟨(bytes text).toArray⟩ : ByteArray) = text.utf8Encode :=
    ByteArray.ext List.data_toByteArray.symm
  rw [encoded]
  exact dif_pos ByteArray.isValidUTF8_utf8Encode

/-- A text without percent signs stands for itself. -/
theorem decode?_of_notMem {text : List Char} (free : '%' ∉ text) : decode? text = some text := by
  unfold decode?
  rw [decodeBytes_of_notMem free, fromUTF8?_bytes, Option.map_some, String.toList_ofList]

/-! ## Numbers -/

/-- A number takes one more digit, and no other character. -/
theorem addDigit_eq (value : Nat) (c : Char) :
    (do
      let digit ← hexValue? c
      if digit < 10 then return value * 10 + digit else none) =
      if c.isDigit then some (10 * value + (c.toNat - '0'.toNat)) else none := by
  unfold hexValue?
  by_cases decimal : c.isDigit = true
  · have small : c.toNat - '0'.toNat < 10 := by
      have upper : c.toNat ≤ 57 := by
        simp only [Char.isDigit, Bool.and_eq_true, decide_eq_true_eq] at decimal
        exact decimal.2
      have zero : '0'.toNat = 48 := rfl
      omega
    rw [if_pos decimal, if_pos decimal, Nat.mul_comm 10]
    exact if_pos small
  · rw [if_neg decimal, if_neg decimal]
    -- The values of letters are ten or more.
    split
    · rw [Option.bind_eq_bind, Option.bind_some, if_neg (by omega)]
    · split
      · rw [Option.bind_eq_bind, Option.bind_some, if_neg (by omega)]
      · rfl

/-- Digits of base ten have a value, and texts with another character have none. -/
theorem numberIn?_decimal (digits : List Char) :
    numberIn? 10 digits =
      if digits.all Char.isDigit then some (Nat.ofDigitChars 10 digits 0) else none := by
  unfold numberIn?
  generalize 0 = value
  induction digits generalizing value with
  | nil => rfl
  | cons c digits ih =>
    rw [List.foldlM_cons, addDigit_eq]
    by_cases decimal : c.isDigit = true
    · rw [if_pos decimal, List.all_cons, decimal, Bool.true_and, Nat.ofDigitChars_cons]
      exact ih _
    · rw [if_neg decimal, List.all_cons, Bool.eq_false_iff.mpr decimal]
      rfl

/-! ## Pieces -/

section

variable {separator : Char → Bool}

theorem splitAt_ne_nil (separator : Char → Bool) (text : List Char) :
    splitAt separator text ≠ [] := by
  cases text with
  | nil => exact List.cons_ne_nil _ _
  | cons c rest =>
    unfold splitAt
    split
    · exact List.cons_ne_nil _ _
    · split <;> exact List.cons_ne_nil _ _

/-- A separator begins a new piece. -/
theorem splitAt_cons_of_pos {c : Char} (separates : separator c = true) (rest : List Char) :
    splitAt separator (c :: rest) = [] :: splitAt separator rest := by
  obtain ⟨piece, pieces, cut⟩ := List.exists_cons_of_ne_nil (splitAt_ne_nil separator rest)
  rw [splitAt, cut]
  exact if_pos separates

/-- Any other character joins the first piece behind it. -/
theorem splitAt_cons_of_neg {c : Char} (joins : separator c = false) {rest piece : List Char}
    {pieces : List (List Char)} (cut : splitAt separator rest = piece :: pieces) :
    splitAt separator (c :: rest) = (c :: piece) :: pieces := by
  rw [splitAt, cut]
  exact if_neg (by simp [joins])

/-- A piece ends at the separator behind it. -/
theorem splitAt_append_cons {piece : List Char} (joined : ∀ c ∈ piece, separator c = false)
    {c : Char} (separates : separator c = true) (rest : List Char) :
    splitAt separator (piece ++ c :: rest) = piece :: splitAt separator rest := by
  induction piece with
  | nil => exact splitAt_cons_of_pos separates rest
  | cons c' piece ih =>
    rw [List.forall_mem_cons] at joined
    exact splitAt_cons_of_neg joined.1 (ih joined.2)

/-- A text without separators is one piece. -/
theorem splitAt_of_forall {piece : List Char} (joined : ∀ c ∈ piece, separator c = false) :
    splitAt separator piece = [piece] := by
  induction piece with
  | nil => rfl
  | cons c piece ih =>
    rw [List.forall_mem_cons] at joined
    exact splitAt_cons_of_neg joined.1 (ih joined.2)

/-- The characters of the pieces are those of the text. -/
theorem mem_of_mem_splitAt {text piece : List Char} (member : piece ∈ splitAt separator text)
    {c : Char} (h : c ∈ piece) : c ∈ text := by
  induction text generalizing piece with
  | nil =>
    rw [splitAt, List.mem_singleton] at member
    exact absurd (member ▸ h) List.not_mem_nil
  | cons c' rest ih =>
    obtain ⟨first, pieces, cut⟩ := List.exists_cons_of_ne_nil (splitAt_ne_nil separator rest)
    rw [cut] at ih
    cases separates : separator c' with
    | true =>
      rw [splitAt_cons_of_pos separates, cut, List.mem_cons] at member
      rcases member with rfl | member
      · exact absurd h List.not_mem_nil
      · exact List.mem_cons_of_mem _ (ih member h)
    | false =>
      rw [splitAt_cons_of_neg separates cut, List.mem_cons] at member
      rcases member with rfl | member
      · rcases List.mem_cons.mp h with rfl | h
        · exact List.mem_cons_self
        · exact List.mem_cons_of_mem _ (ih List.mem_cons_self h)
      · exact List.mem_cons_of_mem _ (ih (List.mem_cons_of_mem _ member) h)

end

/-- Pieces between dots, joined by dots, are the text. -/
theorem intercalate_splitAt (text : List Char) :
    ['.'].intercalate (splitAt (· = '.') text) = text := by
  induction text with
  | nil => rfl
  | cons c rest ih =>
    obtain ⟨first, pieces, cut⟩ := List.exists_cons_of_ne_nil (splitAt_ne_nil (· = '.') rest)
    by_cases dot : c = '.'
    · rw [splitAt_cons_of_pos (by simpa using dot), cut, List.intercalate_cons_cons, ← cut, ih, dot]
      rfl
    · rw [splitAt_cons_of_neg (by simpa using dot) cut, List.intercalate_cons_cons_left, ← cut, ih]

/-! ## Names without tables -/

/-- What holds of each of the first characters holds of all characters in ASCII. -/
theorem forall_ascii {p : Char → Bool} (each : ∀ n < 0x80, p (Char.ofNat n) = true) {c : Char}
    (ascii : c.toNat < 0x80) : p c = true := by
  rw [← Char.ofNat_toNat c]
  exact each c.toNat ascii

/-- What one kind of characters has to do with another, in ASCII. -/
theorem of_ascii {p q : Char → Bool}
    (each : ∀ n < 0x80, (!p (Char.ofNat n) || q (Char.ofNat n)) = true) {c : Char}
    (ascii : c.toNat < 0x80) (h : p c = true) : q c = true := by
  have either := forall_ascii (p := fun c => !p c || q c) each ascii
  rw [h] at either
  exact either

/-- Small letters of characters in ASCII are in ASCII. -/
theorem toNat_toLower_lt {c : Char} (ascii : c.toNat < 0x80) : c.toLower.toNat < 0x80 := by
  have small := forall_ascii (p := fun c => decide (c.toLower.toNat < 0x80)) (by decide) ascii
  exact of_decide_eq_true small

/-- A name in ASCII needs no encoding. -/
theorem asciiName_of_ascii {name : List Char} (ascii : ∀ c ∈ name, c.toNat < 0x80) :
    asciiName name = name.map Char.toLower := by
  unfold asciiName
  rw [List.map_congr_left (g := id), List.map_id, intercalate_splitAt]
  intro label member
  refine Punycode.label_of_ascii (List.all_eq_true.mpr fun c inside => ?_)
  obtain ⟨c', member', rfl⟩ := List.mem_map.mp (mem_of_mem_splitAt member inside)
  exact decide_eq_true (toNat_toLower_lt (ascii c' member'))

/-- Writing names without tables is regular. -/
theorem regular_plainCoding : plainCoding.Regular where
  small _ unmarked := .inl (congrArg some (asciiName_of_ascii unmarked.ascii))

/-! ## Plain hosts -/

/-- **A plain host** is in ASCII, without marks and without percent signs. -/
structure Plain (host : List Char) : Prop where
  /-- It is in ASCII, and none of its labels stands for another one. -/
  unmarked : Unmarked host
  /-- Nothing is encoded in it. -/
  free : '%' ∉ host

section

variable {coding : NameCoding}

/-- A character that no name has is one in small letters, too. -/
theorem readName_of_any_isNameBreak {name : List Char} (ascii : ∀ c ∈ name, c.toNat < 0x80)
    (broken : name.any isNameBreak = true) :
    readName (name.map Char.toLower) = .error .name := by
  obtain ⟨c, member, breaks⟩ := List.any_eq_true.mp broken
  have kept : isNameBreak c.toLower = true :=
    of_ascii (q := fun c => isNameBreak c.toLower) (by decide) (ascii c member) breaks
  have still : (name.map Char.toLower).any isNameBreak = true :=
    List.any_eq_true.mpr ⟨_, List.mem_map_of_mem member, kept⟩
  have some : (name.map Char.toLower).isEmpty = false := by
    rw [List.isEmpty_map]
    exact List.isEmpty_eq_false_iff.mpr (List.ne_nil_of_mem member)
  rw [readName, some, still]
  rfl

/-- **A plain host** without a bracket before it is read in small letters. -/
theorem readWeb_of_plain (regular : coding.Regular) {host : List Char} (plain : Plain host)
    (outside : host.head? ≠ some '[') :
    Host.readWeb coding host = readName (host.map Char.toLower) := by
  unfold Host.readWeb
  split
  · exact absurd rfl outside
  · rw [decode?_of_notMem plain.free, Option.bind_some]
    rcases regular.small host plain.unmarked with small | ⟨refused, broken⟩
    · rw [small]
    · -- A name that is refused in ASCII would have been refused when it is read.
      rw [refused, readName_of_any_isNameBreak plain.unmarked.ascii broken]

/-- **A text names a host** if it can be read as one. -/
def NamesHost (coding : NameCoding) (text : List Char) : Prop :=
  ∃ host, Host.readWeb coding text = .ok host

/-! ## Faults -/

/-- What can be wrong with a host between brackets. -/
theorem fault_of_readBracketed {text : List Char} {fault : Fault}
    (fails : readBracketed text = .error fault) : fault = .six := by
  unfold readBracketed at fails
  split at fails
  · cases fails
  · exact (Except.error.inj fails).symm

/-- What can be wrong with a name in ASCII. -/
theorem fault_of_readName {small : List Char} {fault : Fault}
    (fails : readName small = .error fault) :
    fault = .emptyHost ∧ small = [] ∨ fault = .name ∨ fault = .four := by
  unfold readName at fails
  split_ifs at fails with none broken number
  · exact .inl ⟨(Except.error.inj fails).symm, List.isEmpty_iff.mp none⟩
  · exact .inr (.inl (Except.error.inj fails).symm)
  · split at fails
    · cases fails
    · exact .inr (.inr (Except.error.inj fails).symm)

/-- A fault of a host is none of the scheme, nor of the number. -/
theorem fault_of_readWeb {host : List Char} {fault : Fault}
    (fails : Host.readWeb coding host = .error fault) : fault ≠ .relative ∧ fault ≠ .number := by
  unfold Host.readWeb at fails
  split at fails
  · rw [fault_of_readBracketed fails]
    exact ⟨nofun, nofun⟩
  · split at fails
    · rw [← Except.error.inj fails]
      exact ⟨nofun, nofun⟩
    · rcases fault_of_readName fails with ⟨rfl, -⟩ | rfl | rfl <;> exact ⟨nofun, nofun⟩

/-- **A nameless host** stands between no brackets, and nothing is left of it in ASCII. -/
def Nameless (coding : NameCoding) (host : List Char) : Prop :=
  host.head? ≠ some '[' ∧ (decode? host).bind coding = some []

/-- Just a nameless host is missing. -/
theorem readWeb_eq_emptyHost_iff {host : List Char} :
    Host.readWeb coding host = .error .emptyHost ↔ Nameless coding host := by
  unfold Host.readWeb Nameless
  split
  case h_1 rest =>
    constructor
    · intro fails
      exact Fault.noConfusion (fault_of_readBracketed fails)
    · rintro ⟨outside, -⟩
      exact absurd rfl outside
  case h_2 outside =>
    have unbracketed : host.head? ≠ some '[' := by
      intro bracket
      obtain ⟨rest, rfl⟩ := List.head?_eq_some_iff.mp bracket
      exact outside rest rfl
    cases (decode? host).bind coding with
    | none => exact ⟨nofun, nofun⟩
    | some small =>
      constructor
      · intro fails
        rcases fault_of_readName fails with ⟨-, rfl⟩ | other | other
        · exact ⟨unbracketed, rfl⟩
        · cases other
        · cases other
      · rintro ⟨-, same⟩
        rw [Option.some.inj same]
        rfl

/-- A plain host is nameless only if there is nothing in its place. -/
theorem nameless_iff_of_plain (regular : coding.Regular) {host : List Char} (plain : Plain host) :
    Nameless coding host ↔ host = [] := by
  unfold Nameless
  rw [decode?_of_notMem plain.free, Option.bind_some]
  rcases regular.small host plain.unmarked with small | ⟨refused, broken⟩
  · rw [small, Option.some.injEq, List.map_eq_nil_iff]
    constructor
    · exact And.right
    · rintro rfl
      exact ⟨nofun, rfl⟩
  · rw [refused]
    constructor
    · rintro ⟨-, same⟩
      cases same
    · rintro rfl
      cases broken

/-- Nothing in the place of a host is none. -/
theorem readWeb_nil (regular : coding.Regular) : Host.readWeb coding [] = .error .emptyHost := by
  have plain : Plain [] := by
    refine ⟨⟨fun c member => absurd member List.not_mem_nil, fun label inside => ?_⟩,
      List.not_mem_nil⟩
    rw [splitAt, List.mem_singleton] at inside
    rw [inside]
    decide
  exact readWeb_eq_emptyHost_iff.mpr ((nameless_iff_of_plain regular plain).mpr rfl)

/-! ## Names -/

/-- **Labels joined by dots**, the last one apart. -/
def dotted (labels : List (List Char)) (last : List Char) : List Char :=
  labels.flatMap (· ++ ['.']) ++ last

/-- Labels without dots come back from a name. -/
theorem splitAt_dotted {labels : List (List Char)} {last : List Char}
    (free : ∀ label ∈ labels, '.' ∉ label) (freeLast : '.' ∉ last) :
    splitAt (· = '.') (dotted labels last) = labels ++ [last] := by
  have joined {label : List Char} (free : '.' ∉ label) : ∀ c ∈ label, decide (c = '.') = false :=
    fun c member => decide_eq_false fun dot => free (dot ▸ member)
  induction labels with
  | nil => exact splitAt_of_forall (joined freeLast)
  | cons label labels ih =>
    rw [List.forall_mem_cons] at free
    have cut : dotted (label :: labels) last = label ++ '.' :: dotted labels last := by
      simp [dotted]
    rw [cut, splitAt_append_cons (joined free.1) (by simp), ih free.2]
    rfl

/-- The parts of a name are its labels if the last is not empty. -/
theorem partsOf_dotted {labels : List (List Char)} {last : List Char}
    (free : ∀ label ∈ labels, '.' ∉ label) (freeLast : '.' ∉ last) (visible : last ≠ []) :
    partsOf (dotted labels last) = labels ++ [last] := by
  have other : (labels ++ [last]).getLast? ≠ some [] := by
    rw [List.getLast?_concat]
    exact fun same => visible (Option.some.inj same)
  unfold partsOf
  rw [splitAt_dotted free freeLast]
  exact if_neg other

/-- Small letters keep the dots where they are. -/
theorem map_toLower_dotted (labels : List (List Char)) (last : List Char) :
    (dotted labels last).map Char.toLower =
      dotted (labels.map (List.map Char.toLower)) (last.map Char.toLower) := by
  induction labels with
  | nil => rfl
  | cons label labels ih =>
    have dot : '.'.toLower = '.' := by decide
    simp only [dotted, List.flatMap_cons, List.map_append, List.map_cons, List.map_nil, dot,
      List.append_assoc] at ih ⊢
    rw [ih]

/-- The characters of a name are dots and those of its labels. -/
theorem forall_mem_dotted {p : Char → Prop} {labels : List (List Char)} {last : List Char}
    (dot : p '.') (each : ∀ label ∈ last :: labels, ∀ c ∈ label, p c) :
    ∀ c ∈ dotted labels last, p c := by
  intro c member
  rw [dotted, List.mem_append, List.mem_flatMap] at member
  rcases member with ⟨label, inside, member⟩ | member
  · rcases List.mem_append.mp member with member | member
    · exact each label (List.mem_cons_of_mem _ inside) c member
    · rw [List.mem_singleton.mp member]
      exact dot
  · exact each last List.mem_cons_self c member

/-- The characters of a label: letters, digits and hyphens. -/
def isLabelChar (c : Char) : Bool := c.isAlphanum || c = '-'

/-- The characters of a label are in ASCII. -/
theorem toNat_lt_of_isLabelChar {c : Char} (h : isLabelChar c = true) : c.toNat < 0x80 := by
  have below (high : Char) (ascii : high.toNat < 0x80) (within : c.val ≤ high.val) :
      c.toNat < 0x80 :=
    Nat.lt_of_le_of_lt within ascii
  rcases (Bool.or_eq_true _ _).mp h with plain | hyphen
  · rcases (Bool.or_eq_true c.isAlpha c.isDigit).mp plain with letter | digit
    · rcases (Bool.or_eq_true c.isUpper c.isLower).mp letter with upper | lower
      · exact below 'Z' (by decide) (of_decide_eq_true upper).2
      · exact below 'z' (by decide) (of_decide_eq_true ((Bool.and_eq_true _ _).mp lower).2)
    · exact below '9' (by decide) (of_decide_eq_true ((Bool.and_eq_true _ _).mp digit).2)
  · rw [of_decide_eq_true hyphen]
    decide

/-- What holds of each character of a label in ASCII holds of all of them. -/
theorem forall_isLabelChar {p : Char → Bool}
    (each : ∀ n < 0x80, (!isLabelChar (Char.ofNat n) || p (Char.ofNat n)) = true) {c : Char}
    (h : isLabelChar c = true) : p c = true :=
  of_ascii each (toNat_lt_of_isLabelChar h) h

/-- A label holds no dot. -/
theorem dot_notMem_of_isLabelChar {label : List Char} (h : ∀ c ∈ label, isLabelChar c = true) :
    '.' ∉ label :=
  fun member => Bool.noConfusion (h '.' member)

/-- **A name in labels** without marks is read if it stands for an address of four bytes or does not
end in a number. -/
theorem readWeb_dotted (regular : coding.Regular) {labels : List (List Char)} {last : List Char}
    (each : ∀ label ∈ last :: labels, ∀ c ∈ label, isLabelChar c = true)
    (unmarked : ∀ label ∈ last :: labels, ¬ mark <+: label.map Char.toLower)
    (visible : last ≠ []) :
    Host.readWeb coding (dotted labels last) =
      if endsInNumber ((dotted labels last).map Char.toLower) then
        match readFour? ((dotted labels last).map Char.toLower) with
        | some value => .ok (.four value)
        | none => .error .four
      else .ok (.name ((dotted labels last).map Char.toLower)) := by
  have chars := forall_mem_dotted (p := fun c => isLabelChar c = true ∨ c = '.') (.inr rfl)
    fun label inside c member => .inl (each label inside c member)
  have free : ∀ label ∈ last :: labels, '.' ∉ label :=
    fun label inside => dot_notMem_of_isLabelChar (each label inside)
  have plain : Plain (dotted labels last) := by
    refine ⟨⟨fun c member => ?_, fun label inside => ?_⟩, fun percent => ?_⟩
    · rcases chars c member with label | rfl
      · exact toNat_lt_of_isLabelChar label
      · decide
    · rw [List.forall_mem_cons] at free
      rw [splitAt_dotted free.2 free.1] at inside
      exact unmarked label (by simpa [or_comm] using inside)
    · rcases chars '%' percent with label | dot
      · exact Bool.noConfusion label
      · exact absurd dot (by decide)
  have outside : (dotted labels last).head? ≠ some '[' := by
    intro bracket
    rcases chars '[' (List.mem_of_head? bracket) with label | dot
    · exact Bool.noConfusion label
    · exact absurd dot (by decide)
  have whole : ((dotted labels last).map Char.toLower).isEmpty = false := by
    simp [dotted, visible]
  have unbroken : ((dotted labels last).map Char.toLower).any isNameBreak = false := by
    rw [List.any_map, List.any_eq_false]
    intro c member
    rcases chars c member with label | rfl
    · have allowed := forall_isLabelChar (p := fun c => !isNameBreak c.toLower) (by decide) label
      simpa using allowed
    · decide
  rw [readWeb_of_plain regular plain outside, readName, whole, unbroken]
  rfl

/-- **A domain name**: labels of letters, digits and hyphens, the last of which begins with a
letter. -/
structure DomainName (host : List Char) : Prop where
  /-- No label is marked, which would have to be decoded to be checked. -/
  labels : ∃ labels c last, host = dotted labels (c :: last) ∧ c.isAlpha = true ∧
    ∀ label ∈ (c :: last) :: labels, (∀ c ∈ label, isLabelChar c = true) ∧
      ¬ mark <+: label.map Char.toLower

/-- A letter is in ASCII. -/
theorem toNat_lt_of_isAlpha {c : Char} (letter : c.isAlpha = true) : c.toNat < 0x80 :=
  toNat_lt_of_isLabelChar (by simp [isLabelChar, Char.isAlphanum, letter])

/-- A letter is no digit. -/
theorem isDigit_of_isAlpha {c : Char} (letter : c.isAlpha = true) : c.isDigit = false := by
  have apart := of_ascii (q := fun c => !c.isDigit) (by decide) (toNat_lt_of_isAlpha letter) letter
  exact (Bool.not_eq_true' _).mp apart

/-- What begins with a letter is no number. -/
theorem partNumber?_of_isAlpha {c : Char} (letter : c.isAlpha = true) (rest : List Char) :
    partNumber? (c :: rest) = none := by
  have other := isDigit_of_isAlpha letter
  have read : numberIn? 10 (c :: rest) = none := by
    rw [numberIn?_decimal, List.all_cons, other]
    rfl
  unfold partNumber?
  split
  · rename_i none
    cases none
  · rename_i same
    obtain ⟨rfl, -⟩ := List.cons.inj same
    exact Bool.noConfusion other
  · exact read

/-- **A domain name is read** as itself, in small letters. -/
theorem DomainName.readWeb_eq (regular : coding.Regular) {host : List Char}
    (named : DomainName host) :
    Host.readWeb coding host = .ok (.name (host.map Char.toLower)) := by
  obtain ⟨labels, c, last, rfl, letter, valid⟩ := named.labels
  have each : ∀ label ∈ (c :: last) :: labels, ∀ c ∈ label, isLabelChar c = true :=
    fun label inside => (valid label inside).1
  have small {label : List Char} (chars : ∀ c ∈ label, isLabelChar c = true) :
      '.' ∉ label.map Char.toLower := by
    refine dot_notMem_of_isLabelChar fun c member => ?_
    obtain ⟨c', inside, rfl⟩ := List.mem_map.mp member
    exact forall_isLabelChar (p := fun c => isLabelChar c.toLower) (by decide) (chars c' inside)
  rw [List.forall_mem_cons] at each
  have free : ∀ label ∈ labels.map (List.map Char.toLower), '.' ∉ label := by
    intro label member
    obtain ⟨label', inside, rfl⟩ := List.mem_map.mp member
    exact small (each.2 label' inside)
  have lower : c.toLower.isAlpha = true :=
    of_ascii (q := fun c => c.toLower.isAlpha) (by decide) (toNat_lt_of_isAlpha letter) letter
  have worded : endsInNumber ((dotted labels (c :: last)).map Char.toLower) = false := by
    rw [map_toLower_dotted, endsInNumber,
      partsOf_dotted free (small each.1) (List.cons_ne_nil _ _), List.getLast?_concat]
    have digit := isDigit_of_isAlpha lower
    simp [partNumber?_of_isAlpha lower, digit]
  rw [readWeb_dotted regular (List.forall_mem_cons.mpr each)
    (fun label inside => (valid label inside).2) (List.cons_ne_nil c last)]
  exact if_neg (by rw [worded]; exact Bool.false_ne_true)

/-- A number in base ten is read back. -/
theorem partNumber?_decimalDigits (n : Nat) : partNumber? (decimalDigits n) = some n := by
  rcases Nat.eq_zero_or_pos n with rfl | positive
  · rfl
  · -- A leading zero would call for another base.
    obtain ⟨digit, digits, values, nonzero⟩ := Json.digitValues_eq_cons positive
    have read : numberIn? 10 (decimalDigits n) = some n := by
      rw [numberIn?_decimal,
        if_pos (List.all_eq_true.mpr fun c => Json.isDigit_of_mem_decimalDigits)]
      exact congrArg some Nat.ofDigitChars_ten_toDigits
    obtain ⟨c, rest, written, first, -⟩ := List.map_eq_cons_iff.mp values
    rw [written] at read ⊢
    unfold partNumber?
    split
    · rename_i none
      cases none
    · rename_i same
      obtain ⟨rfl, -⟩ := List.cons.inj same
      exact absurd first.symm nonzero
    · exact read

/-! ## Addresses of four bytes, written -/

/-- The bytes of an address of four stand between dots. -/
theorem writeFour_eq (value : Nat) :
    writeFour value = dotted [decimalDigits (value / 16777216 % 256),
      decimalDigits (value / 65536 % 256), decimalDigits (value / 256 % 256)]
      (decimalDigits (value % 256)) := by
  simp [writeFour, dotted]

/-- Numbers in base ten are labels of digits. -/
theorem isLabelChar_of_mem_decimalDigits {n : Nat} {c : Char} (h : c ∈ decimalDigits n) :
    isLabelChar c = true := by
  simp [isLabelChar, Char.isAlphanum, Json.isDigit_of_mem_decimalDigits h]

/-- Digits have no small form. -/
theorem toLower_of_mem_decimalDigits {n : Nat} {c : Char} (h : c ∈ decimalDigits n) :
    c.toLower = c := by
  have ascii := toNat_lt_of_isLabelChar (isLabelChar_of_mem_decimalDigits h)
  have same := of_ascii (q := fun c => c.toLower = c) (by decide) ascii
    (Json.isDigit_of_mem_decimalDigits h)
  exact of_decide_eq_true same

theorem decimalDigits_ne_nil (n : Nat) : decimalDigits n ≠ [] := by
  intro none
  have read := partNumber?_decimalDigits n
  rw [none] at read
  cases read

/-- The parts of an address of four bytes are its bytes. -/
theorem partsOf_writeFour (value : Nat) :
    partsOf (writeFour value) = [decimalDigits (value / 16777216 % 256),
      decimalDigits (value / 65536 % 256), decimalDigits (value / 256 % 256),
      decimalDigits (value % 256)] := by
  have free (n : Nat) : '.' ∉ decimalDigits n :=
    dot_notMem_of_isLabelChar fun c => isLabelChar_of_mem_decimalDigits
  rw [writeFour_eq, partsOf_dotted _ (free _) (decimalDigits_ne_nil _)]
  · rfl
  · simp [free]

/-- An address of four bytes comes back from its parts. -/
theorem readFour?_writeFour {value : Nat} (h : value < 4294967296) :
    readFour? (writeFour value) = some value := by
  have small (n : Nat) : n % 256 ≤ 255 := Nat.lt_succ_iff.mp (Nat.mod_lt n (by decide))
  have last : value % 256 < 256 := Nat.mod_lt value (by decide)
  have whole : ((value / 16777216 % 256 * 256 + value / 65536 % 256) * 256 + value / 256 % 256) *
      256 + value % 256 = value := by omega
  unfold readFour?
  rw [partsOf_writeFour]
  simp [partNumber?_decimalDigits, fourOf?, small, last, whole]

/-- A number in base ten has no mark, which begins with a letter. -/
theorem not_mark_prefix_decimalDigits (n : Nat) :
    ¬ mark <+: (decimalDigits n).map Char.toLower := by
  intro marked
  obtain ⟨c, member, letter⟩ := List.mem_map.mp (marked.subset (List.mem_cons_self : 'x' ∈ mark))
  have digit := Json.isDigit_of_mem_decimalDigits member
  rw [toLower_of_mem_decimalDigits member] at letter
  rw [letter] at digit
  cases digit

/-- **An address of four bytes is read** from the way it is written. -/
theorem readWeb_writeFour (regular : coding.Regular) {value : Nat} (h : value < 4294967296) :
    Host.readWeb coding (writeFour value) = .ok (.four value) := by
  -- All four labels are numbers in base ten.
  have each {p : List Char → Prop} (holds : ∀ n, p (decimalDigits n)) :
      ∀ label ∈ [decimalDigits (value % 256), decimalDigits (value / 16777216 % 256),
        decimalDigits (value / 65536 % 256), decimalDigits (value / 256 % 256)], p label := by
    intro label inside
    simp only [List.mem_cons, List.not_mem_nil, or_false] at inside
    rcases inside with rfl | rfl | rfl | rfl <;> exact holds _
  have same : (writeFour value).map Char.toLower = writeFour value := by
    rw [writeFour_eq]
    refine (List.map_congr_left ?_).trans (List.map_id _)
    exact forall_mem_dotted (by decide) (each fun n c => toLower_of_mem_decimalDigits)
  have number : endsInNumber (writeFour value) = true := by
    rw [endsInNumber, partsOf_writeFour]
    simp [partNumber?_decimalDigits]
  have read := readWeb_dotted regular (each fun n c => isLabelChar_of_mem_decimalDigits)
    (each not_mark_prefix_decimalDigits) (decimalDigits_ne_nil (value % 256))
  rw [← writeFour_eq, same, number, readFour?_writeFour h] at read
  exact read

end

end AnalysisDesk.Url
