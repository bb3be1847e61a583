import AnalysisDesk.Text.Base64
import Mathlib.Tactic.SplitIfs

/-! # Base 64, written and read
Bytes come back from the characters that they are written with, and no other characters are read.
The proofs follow the way the bytes are cut: three at a time, with one, two or none left over. -/

namespace AnalysisDesk.Text.Base64

/-! ## Digits -/

/-- The standard digits in the order of their values. -/
def alphabet : List Char :=
  "ABCDEFGHIJKLMNOPQRSTUVWXYZabcdefghijklmnopqrstuvwxyz0123456789+/".toList

theorem getElem?_alphabet : ∀ n < 64, alphabet[n]? = some (digit n) := by decide

theorem digit_mem_alphabet {n : Nat} (h : n < 64) : digit n ∈ alphabet :=
  List.mem_of_getElem? (getElem?_alphabet n h)

/-- No digit is taken for padding. -/
theorem digit_ne_pad {n : Nat} (h : n < 64) : digit n ≠ '=' := by
  intro pad
  have member := digit_mem_alphabet h
  rw [pad] at member
  exact absurd member (by decide)

theorem digitValue?_digit : ∀ n < 64, digitValue? (digit n) = some n := by decide

/-- A character between two others has its number between theirs. -/
theorem toNat_between {low high c : Char} (h : (low ≤ c && c ≤ high) = true) :
    low.toNat ≤ c.toNat ∧ c.toNat ≤ high.toNat := by
  simpa [Char.le_def, UInt32.le_iff_toNat_le] using h

/-- **A character with a value** is the digit of that value. -/
theorem digit_of_digitValue? {c : Char} {n : Nat} (h : digitValue? c = some n) :
    n < 64 ∧ digit n = c := by
  unfold digitValue? at h
  split_ifs at h with upper lower number plus slash
  · have range : 65 ≤ c.toNat ∧ c.toNat ≤ 90 := toNat_between upper
    have value : c.toNat - 65 = n := Option.some.inj h
    have written : digit n = Char.ofNat (65 + n) := if_pos (by omega)
    refine ⟨by omega, ?_⟩
    rw [written, show 65 + n = c.toNat by omega, Char.ofNat_toNat]
  · have range : 97 ≤ c.toNat ∧ c.toNat ≤ 122 := toNat_between lower
    have value : c.toNat - 97 + 26 = n := Option.some.inj h
    have written : digit n = Char.ofNat (97 + (n - 26)) := by
      rw [digit, if_neg (by omega), if_pos (by omega)]
      rfl
    refine ⟨by omega, ?_⟩
    rw [written, show 97 + (n - 26) = c.toNat by omega, Char.ofNat_toNat]
  · have range : 48 ≤ c.toNat ∧ c.toNat ≤ 57 := toNat_between number
    have value : c.toNat - 48 + 52 = n := Option.some.inj h
    have written : digit n = Char.ofNat (48 + (n - 52)) := by
      rw [digit, if_neg (by omega), if_neg (by omega), if_pos (by omega)]
      rfl
    refine ⟨by omega, ?_⟩
    rw [written, show 48 + (n - 52) = c.toNat by omega, Char.ofNat_toNat]
  · cases h
    exact ⟨by decide, plus.symm⟩
  · cases h
    exact ⟨by decide, slash.symm⟩

/-! ## Reading what was written -/

/-- A number is the byte that has it as its value. -/
theorem byte_eq {n : Nat} {b : UInt8} (h : n = b.toNat) : UInt8.ofNat n = b := by
  rw [h, UInt8.ofNat_toNat]

/-- Four characters that do not end with padding are read as three bytes. -/
theorem decode?_cons {p q r s : Char} (h : s ≠ '=') (rest : List Char) :
    decode? (p :: q :: r :: s :: rest) = (do
      let p ← digitValue? p
      let q ← digitValue? q
      let r ← digitValue? r
      let s ← digitValue? s
      let bytes ← decode? rest
      some (UInt8.ofNat (p * 4 + q / 16) :: UInt8.ofNat (q % 16 * 16 + r / 4) ::
        UInt8.ofNat (r % 4 * 64 + s) :: bytes)) := by
  rw [decode?]
  · exact fun _ pad _ => h pad
  · exact fun pad _ => h pad

/-- **Decoding undoes encoding**, whatever number of bytes is left over at the end. -/
theorem decode?_encode (bytes : List UInt8) : decode? (encode bytes) = some bytes := by
  induction bytes using encode.induct with
  | case1 => rfl
  | case2 a =>
    have smallA := a.toNat_lt
    rw [encode, decode?, digitValue?_digit _ (by omega), digitValue?_digit _ (by omega)]
    simp only [Option.bind_eq_bind, Option.bind_some]
    rw [if_pos (by omega), byte_eq (b := a) (by omega)]
  | case3 a b =>
    have smallA := a.toNat_lt
    have smallB := b.toNat_lt
    have third : digit (b.toNat % 16 * 4) ≠ '=' := digit_ne_pad (by omega)
    rw [encode, decode?, digitValue?_digit _ (by omega), digitValue?_digit _ (by omega),
      digitValue?_digit _ (by omega)]
    · simp only [Option.bind_eq_bind, Option.bind_some]
      rw [if_pos (by omega), byte_eq (b := a) (by omega), byte_eq (b := b) (by omega)]
    · exact fun pad => third pad
  | case4 a b c rest ih =>
    have smallA := a.toNat_lt
    have smallB := b.toNat_lt
    have smallC := c.toNat_lt
    rw [encode, decode?_cons (digit_ne_pad (by omega)), digitValue?_digit _ (by omega),
      digitValue?_digit _ (by omega), digitValue?_digit _ (by omega),
      digitValue?_digit _ (by omega), ih]
    simp only [Option.bind_eq_bind, Option.bind_some]
    rw [byte_eq (b := a) (by omega), byte_eq (b := b) (by omega), byte_eq (b := c) (by omega)]

/-! ## Writing what was read -/

/-- The value of the byte of a small number. -/
theorem toNat_byte {n : Nat} (h : n < 256) : (UInt8.ofNat n).toNat = n :=
  UInt8.toNat_ofNat_of_lt' h

/-- **Only what encoding writes is read**: bits that padding stands for are zero. -/
theorem eq_encode_of_decode? {text : List Char} {bytes : List UInt8}
    (h : decode? text = some bytes) : text = encode bytes := by
  fun_induction decode? text generalizing bytes with
  | case1 =>
    cases h
    rfl
  | case2 p q =>
    simp only [Option.bind_eq_bind, Option.bind_eq_some_iff] at h
    obtain ⟨p', hp, q', hq, h⟩ := h
    obtain ⟨smallP, rfl⟩ := digit_of_digitValue? hp
    obtain ⟨smallQ, rfl⟩ := digit_of_digitValue? hq
    split_ifs at h with zero
    cases h
    rw [encode, toNat_byte (by omega), show (p' * 4 + q' / 16) / 4 = p' by omega,
      show (p' * 4 + q' / 16) % 4 * 16 = q' by omega]
  | case3 p q r _ =>
    simp only [Option.bind_eq_bind, Option.bind_eq_some_iff] at h
    obtain ⟨p', hp, q', hq, r', hr, h⟩ := h
    obtain ⟨smallP, rfl⟩ := digit_of_digitValue? hp
    obtain ⟨smallQ, rfl⟩ := digit_of_digitValue? hq
    obtain ⟨smallR, rfl⟩ := digit_of_digitValue? hr
    split_ifs at h with zero
    cases h
    rw [encode, toNat_byte (by omega), toNat_byte (by omega),
      show (p' * 4 + q' / 16) / 4 = p' by omega,
      show (p' * 4 + q' / 16) % 4 * 16 + (q' % 16 * 16 + r' / 4) / 16 = q' by omega,
      show (q' % 16 * 16 + r' / 4) % 16 * 4 = r' by omega]
  | case4 p q r s rest _ _ ih =>
    simp only [Option.bind_eq_bind, Option.bind_eq_some_iff] at h
    obtain ⟨p', hp, q', hq, r', hr, s', hs, bytes', read, h⟩ := h
    obtain ⟨smallP, rfl⟩ := digit_of_digitValue? hp
    obtain ⟨smallQ, rfl⟩ := digit_of_digitValue? hq
    obtain ⟨smallR, rfl⟩ := digit_of_digitValue? hr
    obtain ⟨smallS, rfl⟩ := digit_of_digitValue? hs
    cases h
    rw [encode, ← ih read, toNat_byte (by omega), toNat_byte (by omega), toNat_byte (by omega),
      show (p' * 4 + q' / 16) / 4 = p' by omega,
      show (p' * 4 + q' / 16) % 4 * 16 + (q' % 16 * 16 + r' / 4) / 16 = q' by omega,
      show (q' % 16 * 16 + r' / 4) % 16 * 4 + (r' % 4 * 64 + s') / 64 = r' by omega,
      show (r' % 4 * 64 + s') % 64 = s' by omega]
  | case5 => cases h

/-! ## The form of what is written -/

/-- Four characters are written for every three bytes that are begun. -/
theorem length_encode (bytes : List UInt8) :
    (encode bytes).length = 4 * ((bytes.length + 2) / 3) := by
  induction bytes using encode.induct with
  | case1 => rfl
  | case2 a => simp [encode]
  | case3 a b => simp [encode]
  | case4 a b c rest ih =>
    simp only [encode, List.length_cons, ih]
    omega

/-- Digits are written first, and behind them padding for the bytes missing at the end. -/
theorem exists_digits_encode (bytes : List UInt8) :
    ∃ digits, encode bytes = digits ++ List.replicate ((3 - bytes.length % 3) % 3) '=' ∧
      ∀ c ∈ digits, c ∈ alphabet := by
  induction bytes using encode.induct with
  | case1 => exact ⟨[], rfl, nofun⟩
  | case2 a =>
    have smallA := a.toNat_lt
    refine ⟨[digit (a.toNat / 4), digit (a.toNat % 4 * 16)], by rw [encode]; rfl, ?_⟩
    simp only [List.forall_mem_cons]
    exact ⟨digit_mem_alphabet (by omega), digit_mem_alphabet (by omega), nofun⟩
  | case3 a b =>
    have smallA := a.toNat_lt
    have smallB := b.toNat_lt
    refine ⟨[digit (a.toNat / 4), digit (a.toNat % 4 * 16 + b.toNat / 16),
      digit (b.toNat % 16 * 4)], by rw [encode]; rfl, ?_⟩
    simp only [List.forall_mem_cons]
    exact ⟨digit_mem_alphabet (by omega), digit_mem_alphabet (by omega),
      digit_mem_alphabet (by omega), nofun⟩
  | case4 a b c rest ih =>
    have smallA := a.toNat_lt
    have smallB := b.toNat_lt
    have smallC := c.toNat_lt
    obtain ⟨digits, written, all⟩ := ih
    refine ⟨digit (a.toNat / 4) :: digit (a.toNat % 4 * 16 + b.toNat / 16) ::
      digit (b.toNat % 16 * 4 + c.toNat / 64) :: digit (c.toNat % 64) :: digits, ?_, ?_⟩
    · -- Three bytes more ask for the same padding.
      have same : (rest.length + 1 + 1 + 1) % 3 = rest.length % 3 := by omega
      rw [encode, written, List.length_cons, List.length_cons, List.length_cons, same]
      rfl
    · simp only [List.forall_mem_cons]
      exact ⟨digit_mem_alphabet (by omega), digit_mem_alphabet (by omega),
        digit_mem_alphabet (by omega), digit_mem_alphabet (by omega), all⟩

/-- **A text is the standard form of some bytes.** -/
structure Spells (text : List Char) (content : List UInt8) : Prop where
  /-- It has digits first, and behind them padding for the bytes missing at the end. -/
  exists_digits : ∃ digits,
    text = digits ++ List.replicate ((3 - content.length % 3) % 3) '=' ∧
      ∀ c ∈ digits, c ∈ alphabet
  /-- It has four characters for every three bytes that are begun. -/
  length_eq : text.length = 4 * ((content.length + 2) / 3)
  /-- It is read as the bytes. -/
  decode?_eq : decode? text = some content
  /-- No other text is read as them. -/
  unique : ∀ other, decode? other = some content → other = text

/-- Bytes are written in their standard form. -/
theorem spells_encode (content : List UInt8) : Spells (encode content) content :=
  ⟨exists_digits_encode content, length_encode content, decode?_encode content,
    fun _ => eq_encode_of_decode?⟩

/-- A character of a standard form is a digit or padding. -/
theorem Spells.mem {text : List Char} {content : List UInt8} (h : Spells text content) {c : Char}
    (member : c ∈ text) : c ∈ alphabet ∨ c = '=' := by
  obtain ⟨digits, rfl, all⟩ := h.exists_digits
  rcases List.mem_append.mp member with digit | pad
  · exact .inl (all c digit)
  · exact .inr (List.eq_of_mem_replicate pad)

end AnalysisDesk.Text.Base64
