import AnalysisDesk.Json.Reader
import AnalysisDesk.Proofs.Json.Numeral

/-! # How values are spelled
Both layouts of a value are cut into the same tokens: they differ in the blanks between tokens only.
What a lexer makes of a text is told from the end of the text backwards, so that the tokens of a
value are put before those of whatever follows it. -/

namespace AnalysisDesk.Json

open AnalysisDesk.Number (decimalDigits signedDigits)

/-! ## What a lexer makes of a text -/

/-- A lexer in a mode makes tokens of a text, whatever tokens it has made before. -/
def Lexes (mode : Mode) (text : List Char) (tokens : List Token) : Prop :=
  ∀ made : List Token, (text.foldlM Lexer.step ⟨made, mode⟩).bind Lexer.finish? =
    some (made.reverse ++ tokens)

namespace Lexes

variable {mode m : Mode} {c : Char} {text : List Char} {token : Token} {tokens : List Token}

theorem nil : Lexes .between [] [] := by
  intro made
  rw [List.append_nil]
  rfl

/-- A character that makes no token. -/
theorem skip (step : ∀ made, Lexer.step ⟨made, mode⟩ c = some ⟨made, m⟩)
    (rest : Lexes m text tokens) : Lexes mode (c :: text) tokens := by
  intro made
  rw [List.foldlM_cons, step]
  exact rest made

/-- A character that completes a token. -/
theorem emit (step : ∀ made, Lexer.step ⟨made, mode⟩ c = some ⟨token :: made, m⟩)
    (rest : Lexes m text tokens) : Lexes mode (c :: text) (token :: tokens) := by
  intro made
  have later := rest (token :: made)
  rw [List.reverse_cons, List.append_assoc] at later
  rw [List.foldlM_cons, step]
  exact later

/-- A token that ends where the next one begins, or with the text. -/
theorem close (closes : ∀ made, Lexer.close? made mode = some (token :: made))
    (stops : ∀ c ∈ text.head?, ∀ made,
      Lexer.step ⟨made, mode⟩ c = (Lexer.close? made mode).bind (Lexer.begin · c))
    (rest : Lexes .between text tokens) : Lexes mode text (token :: tokens) := by
  intro made
  have later := rest (token :: made)
  rw [List.reverse_cons, List.append_assoc] at later
  -- The character that ends the token is read as the first one after it.
  cases text with
  | nil =>
    change (Lexer.close? made mode).map List.reverse = _
    rw [closes]
    exact later
  | cons c text =>
    rw [List.foldlM_cons, stops c rfl, closes]
    exact later

/-- The tokens of a whole text. -/
theorem tokens?_eq (h : Lexes .between text tokens) : tokens? text = some tokens := h []

/-! ## Punctuation and blanks -/

theorem openArray (rest : Lexes .between text tokens) :
    Lexes .between ('[' :: text) (.openArray :: tokens) := emit (fun _ => rfl) rest

theorem closeArray (rest : Lexes .between text tokens) :
    Lexes .between (']' :: text) (.closeArray :: tokens) := emit (fun _ => rfl) rest

theorem openObject (rest : Lexes .between text tokens) :
    Lexes .between ('\x7b' :: text) (.openObject :: tokens) := emit (fun _ => rfl) rest

theorem closeObject (rest : Lexes .between text tokens) :
    Lexes .between ('\x7d' :: text) (.closeObject :: tokens) := emit (fun _ => rfl) rest

theorem comma (rest : Lexes .between text tokens) :
    Lexes .between (',' :: text) (.comma :: tokens) := emit (fun _ => rfl) rest

theorem colon (rest : Lexes .between text tokens) :
    Lexes .between (':' :: text) (.colon :: tokens) := emit (fun _ => rfl) rest

theorem blank (rest : Lexes .between text tokens) : Lexes .between (' ' :: text) tokens :=
  skip (fun _ => rfl) rest

/-- A new line is blank. -/
theorem newLine (depth : Nat) (rest : Lexes .between text tokens) :
    Lexes .between (newLine depth ++ text) tokens := by
  refine skip (m := .between) (fun _ => rfl) ?_
  induction 2 * depth with
  | zero => exact rest
  | succ n ih => exact blank ih

end Lexes

/-! ## Words and numbers -/

/-- A text at which a word and a number end. -/
def Stops (text : List Char) : Prop :=
  ∀ c ∈ text.head?, c.isLower = false ∧ isNumberChar c = false

theorem stops_nil : Stops [] := fun _ h => nomatch h

theorem stops_cons {c : Char} (text : List Char) (lower : c.isLower = false)
    (number : isNumberChar c = false) : Stops (c :: text) := by
  intro c' h
  cases h
  exact ⟨lower, number⟩

namespace Lexes

variable {text : List Char} {token : Token} {tokens : List Token}

/-- **A token that runs** as far as its characters go: they are collected up to the first one that
does not belong to it, and are known as a whole. -/
theorem stretch {mode : List Char → Mode} {belongs : Char → Bool}
    (grows : ∀ made written c, belongs c = true →
      Lexer.step ⟨made, mode written⟩ c = some ⟨made, mode (c :: written)⟩)
    (ends : ∀ made written c, belongs c = false →
      Lexer.step ⟨made, mode written⟩ c =
        (Lexer.close? made (mode written)).bind (Lexer.begin · c))
    {characters written : List Char} (all : ∀ c ∈ characters, belongs c = true)
    (known : ∀ made,
      Lexer.close? made (mode (characters.reverse ++ written)) = some (token :: made))
    (stops : ∀ c ∈ text.head?, belongs c = false) (rest : Lexes .between text tokens) :
    Lexes (mode written) (characters ++ text) (token :: tokens) := by
  induction characters generalizing written with
  | nil => exact close known (fun c h made => ends made written c (stops c h)) rest
  | cons c characters ih =>
    have step (made : List Token) := grows made written c (all c List.mem_cons_self)
    refine skip step (ih (fun c h => all c (List.mem_cons_of_mem _ h)) fun made => ?_)
    have later := known made
    rw [List.reverse_cons, List.append_assoc] at later
    exact later

/-- The letters of a word up to its end. -/
theorem word {letters written : List Char} (all : letters.all Char.isLower = true)
    (known : wordToken? (written.reverse ++ letters) = some token) (stops : Stops text)
    (rest : Lexes .between text tokens) :
    Lexes (.word written) (letters ++ text) (token :: tokens) := by
  have grows (made : List Token) (written : List Char) (c : Char) (lower : c.isLower = true) :
      Lexer.step ⟨made, .word written⟩ c = some ⟨made, .word (c :: written)⟩ := if_pos lower
  have ends (made : List Token) (written : List Char) (c : Char) (other : c.isLower = false) :
      Lexer.step ⟨made, .word written⟩ c =
        (Lexer.close? made (.word written)).bind (Lexer.begin · c) :=
    if_neg (Bool.eq_false_iff.mp other)
  rw [← List.reverse_reverse letters, ← List.reverse_append] at known
  exact stretch grows ends (List.all_eq_true.mp all)
    (fun made => congrArg (Option.map (· :: made)) known) (fun c h => (stops c h).1) rest

/-- The characters of a number up to its end. -/
theorem number {characters written : List Char} {n : WrittenNumber}
    (all : ∀ c ∈ characters, isNumberChar c = true)
    (known : WrittenNumber.read? (written.reverse ++ characters) = some n)
    (stops : Stops text) (rest : Lexes .between text tokens) :
    Lexes (.number written) (characters ++ text) (.number n :: tokens) := by
  have grows (made : List Token) (written : List Char) (c : Char) (number : isNumberChar c = true) :
      Lexer.step ⟨made, .number written⟩ c = some ⟨made, .number (c :: written)⟩ := if_pos number
  have ends (made : List Token) (written : List Char) (c : Char) (other : isNumberChar c = false) :
      Lexer.step ⟨made, .number written⟩ c =
        (Lexer.close? made (.number written)).bind (Lexer.begin · c) :=
    if_neg (Bool.eq_false_iff.mp other)
  rw [← List.reverse_reverse characters, ← List.reverse_append] at known
  exact stretch grows ends all (fun made => congrArg (Option.map (Token.number · :: made)) known)
    (fun c h => (stops c h).2) rest

theorem nullWord (stops : Stops text) (rest : Lexes .between text tokens) :
    Lexes .between (nullWord ++ text) (.null :: tokens) :=
  skip (m := .word ['n']) (fun _ => rfl) (word rfl rfl stops rest)

theorem boolWord (b : Bool) (stops : Stops text) (rest : Lexes .between text tokens) :
    Lexes .between (boolWord b ++ text) (.bool b :: tokens) := by
  cases b with
  | true => exact skip (m := .word ['t']) (fun _ => rfl) (word rfl rfl stops rest)
  | false => exact skip (m := .word ['f']) (fun _ => rfl) (word rfl rfl stops rest)

end Lexes

/-- A number begins with a digit. -/
theorem begin_digit {c : Char} (h : c.isDigit = true) (made : List Token) :
    Lexer.begin made c = some ⟨made, .number [c]⟩ := by
  -- None of the characters tried before is a digit.
  have ne {d : Char} (hd : d.isDigit = false) : c ≠ d := by
    rintro rfl
    exact Bool.false_ne_true (hd.symm.trans h)
  have space : isSpace c = false := by
    simp only [isSpace, Bool.or_eq_false_iff, decide_eq_false_iff_not]
    exact ⟨⟨⟨ne rfl, ne rfl⟩, ne rfl⟩, ne rfl⟩
  unfold Lexer.begin
  rw [if_neg (by rw [space]; exact Bool.false_ne_true), if_neg (ne rfl), if_neg (ne rfl),
    if_neg (ne rfl), if_neg (ne rfl), if_neg (ne rfl), if_neg (ne rfl), if_neg (ne rfl),
    if_pos (by rw [h, Bool.or_true])]

theorem isNumberChar_of_isDigit {c : Char} (h : c.isDigit = true) : isNumberChar c = true := by
  simp only [isNumberChar, h, Bool.true_or]

/-- **A whole number** is one token. -/
theorem Lexes.signedDigits (n : Int) {text : List Char} {tokens : List Token} (stops : Stops text)
    (rest : Lexes .between text tokens) :
    Lexes .between (signedDigits n ++ text) (.number (writtenWhole n) :: tokens) := by
  have read := WrittenNumber.read?_signedDigits n
  have all {k : Nat} : ∀ c ∈ decimalDigits k, isNumberChar c = true := fun _ h =>
    isNumberChar_of_isDigit (isDigit_of_mem_decimalDigits h)
  cases n with
  | negSucc k => exact skip (m := .number ['-']) (fun _ => rfl) (number all read stops rest)
  | ofNat k =>
    change Lexes .between (decimalDigits k ++ text) _
    change WrittenNumber.read? (decimalDigits k) = _ at read
    cases digits : decimalDigits k with
    | nil => exact absurd digits Nat.toDigits_ne_nil
    | cons c characters =>
      have digit : c.isDigit = true :=
        isDigit_of_mem_decimalDigits (n := k) (digits ▸ List.mem_cons_self)
      rw [digits] at read
      refine skip (m := .number [c]) (begin_digit digit) (number ?_ read stops rest)
      exact fun c' h => all (k := k) c' (digits ▸ List.mem_cons_of_mem _ h)

/-! ## Strings -/

/-- Whether a control has a letter to be escaped with. -/
def isNamedControl (c : Char) : Bool :=
  c = '\x08' || c = '\x0c' || c = '\n' || c = '\r' || c = '\t'

/-- The piece that a character is read as: a control without a name is written by number. -/
def pieceOf (c : Char) : Piece :=
  if c.toNat < 0x20 && !isNamedControl c then .unit c.toNat else .char c

/-- The pieces that a text is read as. -/
def piecesOf (s : String) : List Piece := s.toList.map pieceOf

/-- The three ways to write a character in a string, with the piece that it is read as. -/
inductive Escaped (c : Char) : List Char → Piece → Prop
  /-- A backslash and a letter that stands for the character. -/
  | named {letter : Char} (unnumbered : letter ≠ 'u') (stands : escaped? letter = some c) :
      Escaped c ['\\', letter] (.char c)
  /-- A control by its number. -/
  | control (control : c.toNat < 0x20) :
      Escaped c ['\\', 'u', '0', '0', hexDigit (c.toNat / 16), hexDigit (c.toNat % 16)]
        (.unit c.toNat)
  /-- The character itself. -/
  | printed (quote : c ≠ '"') (backslash : c ≠ '\\') (printed : ¬ c.toNat < 0x20) :
      Escaped c [c] (.char c)

/-- **Every character** is written in one of the three ways. -/
theorem escaped_escapeChar (c : Char) : Escaped c (escapeChar c) (pieceOf c) := by
  unfold escapeChar
  split_ifs with hquote hbackslash hbackspace hformFeed hnewLine hreturn htab hcontrol
  · subst hquote
    exact .named (by decide) rfl
  · subst hbackslash
    exact .named (by decide) rfl
  · subst hbackspace
    exact .named (by decide) rfl
  · subst hformFeed
    exact .named (by decide) rfl
  · subst hnewLine
    exact .named (by decide) rfl
  · subst hreturn
    exact .named (by decide) rfl
  · subst htab
    exact .named (by decide) rfl
  · have unnamed : isNamedControl c = false := by
      simp [isNamedControl, hbackspace, hformFeed, hnewLine, hreturn, htab]
    have piece : pieceOf c = .unit c.toNat := by
      simp only [pieceOf, hcontrol, unnamed, decide_true, Bool.not_false, Bool.and_self, if_true]
    rw [piece]
    exact .control hcontrol
  · have piece : pieceOf c = .char c := by simp [pieceOf, hcontrol]
    rw [piece]
    exact .printed hquote hbackslash hcontrol

theorem hexValue?_hexDigit : ∀ n < 16, hexValue? (hexDigit n) = some n := by decide

namespace Lexes

variable {pieces : List Piece} {text : List Char} {tokens : List Token}

/-- A digit of a unit, not the last one. -/
theorem unitDigit {value n due : Nat} (h : n < 16)
    (rest : Lexes (.unit pieces (value * 16 + n) (due + 1)) text tokens) :
    Lexes (.unit pieces value (due + 2)) (hexDigit n :: text) tokens := by
  refine skip (fun made => ?_) rest
  simp only [Lexer.step, hexValue?_hexDigit n h]
  rfl

/-- The last digit of a unit. -/
theorem lastDigit {value n : Nat} (h : n < 16)
    (rest : Lexes (.text (.unit (value * 16 + n) :: pieces)) text tokens) :
    Lexes (.unit pieces value 1) (hexDigit n :: text) tokens := by
  refine skip (fun made => ?_) rest
  simp only [Lexer.step, hexValue?_hexDigit n h]
  rfl

/-- **A character in a string** is one piece, however it is written. -/
theorem escaped {c : Char} {written : List Char} {piece : Piece} (h : Escaped c written piece)
    (rest : Lexes (.text (piece :: pieces)) text tokens) :
    Lexes (.text pieces) (written ++ text) tokens := by
  cases h with
  | named unnumbered stands =>
    refine skip (fun _ => rfl) (skip (fun made => ?_) rest)
    simp only [Lexer.step, if_neg unnumbered, stands]
    rfl
  | control small =>
    -- The two digits after the zeros make up the number again.
    rw [show c.toNat = c.toNat / 16 * 16 + c.toNat % 16 by omega] at rest
    refine skip (fun _ => rfl) (skip (fun _ => rfl) ?_)
    refine unitDigit (n := 0) (by decide) (unitDigit (n := 0) (by decide) ?_)
    refine unitDigit (by omega) (lastDigit (by omega) ?_)
    rwa [Nat.zero_mul, Nat.zero_add]
  | printed quote backslash printed =>
    refine skip (fun made => ?_) rest
    simp only [Lexer.step, quote, backslash, printed, if_false]

/-- The characters of a string. -/
theorem escapeText (s : List Char)
    (rest : Lexes (.text ((s.map pieceOf).reverse ++ pieces)) text tokens) :
    Lexes (.text pieces) (escapeText s ++ text) tokens := by
  induction s generalizing pieces with
  | nil => exact rest
  | cons c s ih =>
    rw [List.map_cons, List.reverse_cons, List.append_assoc] at rest
    rw [escapeText_cons, List.append_assoc]
    exact escaped (escaped_escapeChar c) (ih rest)

/-- **A string** is one token. -/
theorem textLiteral (s : String) (rest : Lexes .between text tokens) :
    Lexes .between (textLiteral s.toList ++ text) (.text (piecesOf s) :: tokens) := by
  unfold Json.textLiteral
  rw [List.cons_append, List.append_assoc]
  refine skip (m := .text []) (fun _ => rfl) (escapeText s.toList (emit (fun made => ?_) rest))
  simp only [Lexer.step, if_true, List.append_nil, List.reverse_reverse, piecesOf]

end Lexes

/-- A piece is decoded to its character. -/
theorem decodePieces?_pieceOf_cons (c : Char) (rest : List Piece) :
    decodePieces? (pieceOf c :: rest) = (decodePieces? rest).map (c :: ·) := by
  unfold pieceOf
  split
  · rename_i control
    have small : c.toNat < 0x20 := by simp_all
    -- A control is no half of a pair, whatever piece comes next.
    have high : isHighUnit c.toNat = false := by
      simp only [isHighUnit, Bool.and_eq_false_iff, decide_eq_false_iff_not]
      omega
    have low : isLowUnit c.toNat = false := by
      simp only [isLowUnit, Bool.and_eq_false_iff, decide_eq_false_iff_not]
      omega
    cases rest with
    | nil => simp [decodePieces?, high, low, Char.ofNat_toNat]
    | cons piece rest =>
      cases piece <;> simp [decodePieces?, high, low, Char.ofNat_toNat]
  · simp [decodePieces?]

/-- **The pieces of a text decode to it.** -/
theorem decodeText?_piecesOf (s : String) : decodeText? (piecesOf s) = some s := by
  have decoded (cs : List Char) : decodePieces? (cs.map pieceOf) = some cs := by
    induction cs with
    | nil => simp [decodePieces?]
    | cons c cs ih => rw [List.map_cons, decodePieces?_pieceOf_cons, ih, Option.map_some]
  unfold decodeText? piecesOf
  rw [decoded, Option.map_some, String.ofList_toList]

end AnalysisDesk.Json
