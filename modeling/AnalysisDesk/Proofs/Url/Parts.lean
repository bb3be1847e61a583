import AnalysisDesk.Proofs.Text.Trim
import AnalysisDesk.Proofs.Url.Host
import AnalysisDesk.Url.Address

/-! # The parts of an address of the web
An address of the web is cut into its scheme, the slashes behind it, an authority, and the rest; the
authority into a user, a host and a number. `Parts` says where the cuts are without saying how they
are found. Every address with one of the two schemes has such parts, and reading it comes to reading
its host and its number. -/

namespace AnalysisDesk.Url

open AnalysisDesk.Text (exists_append_dropWhile head?_dropWhile_eq_false
  dropWhile_append_of_forall)

/-! ## Brackets -/

/-- Whether the last bracket of a text opens; a text without brackets leaves them as they were. -/
def leavesOpen (before : Bool) (text : List Char) : Bool :=
  match text.reverse.find? fun c => c = '[' || c = ']' with
  | some bracket => bracket = '['
  | none => before

@[simp] theorem leavesOpen_nil (before : Bool) : leavesOpen before [] = before := rfl

/-- The first character of a text counts like one before it. -/
theorem leavesOpen_cons (before : Bool) (c : Char) (rest : List Char) :
    leavesOpen before (c :: rest) =
      leavesOpen (if c = '[' then true else if c = ']' then false else before) rest := by
  unfold leavesOpen
  rw [List.reverse_cons, List.find?_append]
  cases rest.reverse.find? fun c => c = '[' || c = ']' with
  | some bracket => rfl
  | none =>
    by_cases opens : c = '['
    · simp [opens]
    · by_cases closes : c = ']'
      · simp [closes]
      · simp [opens, closes]

/-! ## Authorities -/

/-- **A host ends at its number**: it has no colon outside brackets, and what follows is nothing or
begins with one. -/
structure HostEnds (before : Bool) (host number : List Char) : Prop where
  /-- A colon of the host stands between brackets. -/
  inside : ∀ front back, host = front ++ ':' :: back → leavesOpen before front = true
  /-- What follows begins with a colon that does not. -/
  colon : number = [] ∨ ∃ digits, number = ':' :: digits ∧ leavesOpen before host = false

/-- An empty host ends at once. -/
theorem HostEnds.nil {before : Bool} {number : List Char}
    (colon : number = [] ∨ ∃ digits, number = ':' :: digits ∧ before = false) :
    HostEnds before [] number :=
  ⟨fun front back cut => absurd cut.symm (by simp), colon⟩

/-- Behind a character that ends no host, the host ends where it did. -/
theorem HostEnds.cons {before : Bool} {c : Char} {host number : List Char}
    (kept : ¬ (c = ':' ∧ before = false))
    (ends : HostEnds (if c = '[' then true else if c = ']' then false else before) host number) :
    HostEnds before (c :: host) number := by
  refine ⟨fun front back cut => ?_, ?_⟩
  · cases front with
    | nil =>
      have first : c = ':' := (List.cons.inj cut).1
      simpa [first] using kept
    | cons c' front =>
      obtain ⟨rfl, behind⟩ := List.cons.inj cut
      rw [leavesOpen_cons]
      exact ends.inside front back behind
  · rw [leavesOpen_cons]
    exact ends.colon

/-- Every text is a host and a number behind it. -/
theorem hostEnds_cutHost (before : Bool) (text : List Char) :
    text = (cutHost before text).1 ++ (cutHost before text).2 ∧
      HostEnds before (cutHost before text).1 (cutHost before text).2 := by
  induction text generalizing before with
  | nil => exact ⟨rfl, .nil (.inl rfl)⟩
  | cons c rest ih =>
    -- A colon outside brackets ends the host, and any other character joins it.
    unfold cutHost
    by_cases ends : c = ':' ∧ before = false
    · obtain ⟨rfl, rfl⟩ := ends
      exact ⟨rfl, .nil (.inr ⟨rest, rfl, rfl⟩)⟩
    · rw [if_neg (by simpa using ends)]
      obtain ⟨cut, hostEnds⟩ := ih (if c = '[' then true else if c = ']' then false else before)
      exact ⟨congrArg (c :: ·) cut, hostEnds.cons ends⟩

/-- The host is cut off where it ends. -/
theorem HostEnds.cutHost_eq {before : Bool} {host number : List Char}
    (ends : HostEnds before host number) : cutHost before (host ++ number) = (host, number) := by
  induction host generalizing before with
  | nil =>
    rcases ends.colon with rfl | ⟨digits, rfl, closed⟩
    · rfl
    · have closed : before = false := closed
      rw [closed]
      rfl
  | cons c host ih =>
    have kept : ¬ (c = ':' ∧ before = false) := by
      rintro ⟨rfl, closed⟩
      have isOpen : before = true := ends.inside [] host rfl
      rw [isOpen] at closed
      exact Bool.noConfusion closed
    have behind : HostEnds (if c = '[' then true else if c = ']' then false else before) host
        number := by
      refine ⟨fun front back cut => ?_, ?_⟩
      · rw [← leavesOpen_cons]
        exact ends.inside (c :: front) back (congrArg (c :: ·) cut)
      · rw [← leavesOpen_cons]
        exact ends.colon
    rw [List.cons_append, cutHost, if_neg (by simpa using kept)]
    simp only [ih behind]

/-- **An authority names a host and a number**: before them stands a user up to the last at sign, or
nothing. -/
structure Names (authority host number : List Char) : Prop where
  /-- What stands before the host ends with an at sign. -/
  user : ∃ user, authority = user ++ (host ++ number) ∧ (user = [] ∨ ∃ name, user = name ++ ['@'])
  /-- No at sign follows. -/
  last : '@' ∉ host ++ number
  /-- The host ends at the number. -/
  ends : HostEnds false host number

/-- Every authority names a host and a number. -/
theorem exists_names (authority : List Char) : ∃ host number, Names authority host number := by
  -- From behind, the host and the number go up to the first at sign.
  obtain ⟨back, whole, free⟩ := exists_append_dropWhile (· != '@') authority.reverse
  obtain ⟨cut, ends⟩ := hostEnds_cutHost false back.reverse
  have first := fun c => head?_dropWhile_eq_false (p := (· != '@')) authority.reverse (c := c)
  generalize authority.reverse.dropWhile (· != '@') = front at whole first
  have authority_eq : authority = front.reverse ++ back.reverse := by
    rw [← List.reverse_append, ← whole, List.reverse_reverse]
  refine ⟨_, _, ⟨front.reverse, by rw [← cut]; exact authority_eq, ?_⟩, ?_, ends⟩
  · cases front with
    | nil => exact .inl rfl
    | cons c front =>
      have sign : c = '@' := by simpa using first c rfl
      exact .inr ⟨front.reverse, by rw [sign, List.reverse_cons]⟩
  · rw [← cut, List.mem_reverse]
    intro member
    simpa using free '@' member

/-- The text behind the last at sign is the host and the number. -/
theorem Names.cutUser_eq {authority host number : List Char} (names : Names authority host number) :
    ∃ user, (cutUser authority).getD ([], authority) = (user, host ++ number) := by
  obtain ⟨⟨user, rfl, before⟩, last, -⟩ := names
  generalize host ++ number = text at last
  unfold cutUser
  rcases before with rfl | ⟨name, rfl⟩
  · rw [List.nil_append, if_neg (by simpa using last)]
    exact ⟨[], rfl⟩
  · have sign : (name ++ ['@'] ++ text).contains '@' = true := by simp
    have behind : (name ++ ['@'] ++ text).reverse.takeWhile (· != '@') = text.reverse := by
      rw [List.reverse_append, List.takeWhile_append_of_pos]
      · rw [List.reverse_append, List.reverse_singleton, List.singleton_append,
          List.takeWhile_cons_of_neg (by simp), List.append_nil]
      · intro c member
        have other : c ≠ '@' := fun same => last (same ▸ List.mem_reverse.mp member)
        simpa using other
    rw [if_pos sign, behind, List.reverse_reverse]
    exact ⟨_, rfl⟩

/-! ## Numbers behind a host -/

/-- **A number fits** if there is none, or digits of no more than the greatest; these may be none,
and may begin with zeros. -/
inductive Fits : List Char → Prop
  | absent : Fits []
  | digits {digits : List Char} (decimal : ∀ c ∈ digits, c.isDigit = true)
      (small : Nat.ofDigitChars 10 digits 0 ≤ 65535) : Fits (':' :: digits)

/-- What stands behind a colon is read as a number of base ten. -/
theorem readNumber_cons (scheme : Scheme) (c : Char) (digits : List Char) :
    readNumber scheme (':' :: c :: digits) =
      match numberIn? 10 (c :: digits) with
      | none => .error .number
      | some number =>
        if greatestNumber < number then .error .number
        else .ok (if scheme.usualNumber = some number then none else some number) :=
  rfl

/-- A number that fits is read. -/
theorem Fits.readNumber {number : List Char} (fits : Fits number) (scheme : Scheme) :
    ∃ read, readNumber scheme number = .ok read := by
  cases fits with
  | absent => exact ⟨_, rfl⟩
  | @digits digits decimal small =>
    cases digits with
    | nil => exact ⟨_, rfl⟩
    | cons c digits =>
      rw [readNumber_cons, numberIn?_decimal, if_pos (List.all_eq_true.mpr decimal)]
      exact ⟨_, if_neg (Nat.not_lt.mpr small)⟩

/-- What begins with a colon and does not fit is no number. -/
theorem readNumber_of_not_fits {digits : List Char} (unfit : ¬ Fits (':' :: digits))
    (scheme : Scheme) : readNumber scheme (':' :: digits) = .error .number := by
  cases digits with
  | nil => exact absurd (.digits (fun c none => absurd none List.not_mem_nil) (by decide)) unfit
  | cons c digits =>
    rw [readNumber_cons, numberIn?_decimal]
    by_cases decimal : (c :: digits).all Char.isDigit = true
    · have large : ¬ Nat.ofDigitChars 10 (c :: digits) 0 ≤ 65535 :=
        fun small => unfit (.digits (List.all_eq_true.mp decimal) small)
      rw [if_pos decimal]
      exact if_pos (Nat.not_le.mp large)
    · rw [if_neg decimal]

/-! ## Addresses -/

/-- The characters that end an authority. -/
def authorityEnds : List Char := ['/', '\\', '?', '#']

/-- **The host and the number of an address of the web.** Behind the scheme stand slashes of either
kind, then the authority that names them, up to the next slash, question mark or hash sign. -/
inductive Parts : List Char → List Char → List Char → Prop
  | intro {start slashes authority rest host number : List Char}
      (scheme : start = "http:".toList ∨ start = "https:".toList)
      (slash : ∀ c ∈ slashes, c = '/' ∨ c = '\\')
      (within : ∀ c ∈ authority, c ∉ authorityEnds)
      (behind : ∀ c, rest.head? = some c → c ∈ authorityEnds)
      (all : authority = [] → ∀ c, rest.head? = some c → ¬ (c = '/' ∨ c = '\\'))
      (names : Names authority host number) :
      Parts (start ++ (slashes ++ (authority ++ rest))) host number

section

variable (name : List Char) (usual : Nat)

theorem isSlash_web_iff {c : Char} :
    (Scheme.web name usual).isSlash c = true ↔ c = '/' ∨ c = '\\' := by
  simp [Scheme.isSlash, Scheme.isSpecial]

theorem endsAuthority_web_iff {c : Char} :
    (Scheme.web name usual).endsAuthority c = true ↔ c ∈ authorityEnds := by
  simp [Scheme.endsAuthority, Scheme.isSlash, Scheme.isSpecial, authorityEnds, or_assoc]

variable {slashes authority rest : List Char}

/-- The slashes behind the scheme are all passed over. -/
theorem dropWhile_isSlash (slash : ∀ c ∈ slashes, c = '/' ∨ c = '\\')
    (within : ∀ c ∈ authority, c ∉ authorityEnds)
    (all : authority = [] → ∀ c, rest.head? = some c → ¬ (c = '/' ∨ c = '\\')) :
    (slashes ++ (authority ++ rest)).dropWhile (Scheme.web name usual).isSlash =
      authority ++ rest := by
  refine dropWhile_append_of_forall
    (fun c member => (isSlash_web_iff name usual).mpr (slash c member)) ?_
  intro c first
  rw [← Bool.not_eq_true, isSlash_web_iff]
  cases authority with
  | nil => exact all rfl c first
  | cons c' authority =>
    obtain rfl : c' = c := Option.some.inj first
    have other := within c' List.mem_cons_self
    rintro (rfl | rfl) <;> exact other (by decide)

/-- The authority goes up to the first character that ends it. -/
theorem takeWhile_endsAuthority (within : ∀ c ∈ authority, c ∉ authorityEnds)
    (behind : ∀ c, rest.head? = some c → c ∈ authorityEnds) :
    (authority ++ rest).takeWhile (fun c => !(Scheme.web name usual).endsAuthority c) =
      authority := by
  rw [List.takeWhile_append_of_pos]
  · cases rest with
    | nil => rw [List.takeWhile_nil, List.append_nil]
    | cons c rest =>
      have ended := (endsAuthority_web_iff name usual).mpr (behind c rfl)
      rw [List.takeWhile_cons_of_neg (by simp [ended]), List.append_nil]
  · intro c member
    rw [Bool.not_eq_true', ← Bool.not_eq_true, endsAuthority_web_iff]
    exact within c member

/-- Reading an authority reads the host and the number that it names. -/
theorem readAuthority_eq {coding : NameCoding} (regular : coding.Regular)
    {host number : List Char} (names : Names authority host number) :
    ∃ user, readAuthority coding (.web name usual) authority = do
      let host ← Host.readWeb coding host
      return (user, host, ← readNumber (.web name usual) number) := by
  obtain ⟨user, cut⟩ := names.cutUser_eq
  refine ⟨writeUser user, ?_⟩
  unfold readAuthority
  rw [cut]
  simp only [names.ends.cutHost_eq]
  -- That an empty host is refused at once makes no difference.
  cases host with
  | nil =>
    rw [readWeb_nil regular]
    rfl
  | cons c host => rfl

/-- Reading behind the slashes reads the authority; the rest is never at fault. -/
theorem readBehindSlashes_eq (coding : NameCoding) (within : ∀ c ∈ authority, c ∉ authorityEnds)
    (behind : ∀ c, rest.head? = some c → c ∈ authorityEnds) :
    ∃ path query fragment,
      readBehindSlashes coding (.web name usual) (authority ++ rest) = do
        let (user, host, number) ← readAuthority coding (.web name usual) authority
        return ⟨.web name usual, user, host, number, path, query, fragment⟩ := by
  unfold readBehindSlashes
  rw [takeWhile_endsAuthority name usual within behind]
  exact ⟨_, _, _, rfl⟩

end

/-- The scheme of an address of the web and what stands behind its colon. -/
theorem readScheme?_web {start : List Char}
    (scheme : start = "http:".toList ∨ start = "https:".toList) (rest : List Char) :
    ∃ name usual, (name = "http".toList ∨ name = "https".toList) ∧
      readScheme? (start ++ rest) = some (.web name usual, rest) := by
  rcases scheme with rfl | rfl
  · exact ⟨"http".toList, 80, .inl rfl, rfl⟩
  · exact ⟨"https".toList, 443, .inr rfl, rfl⟩

/-- **An address is read** by reading the host and the number that it names. -/
theorem Parts.read_eq {coding : NameCoding} (regular : coding.Regular) {url : String}
    {host number : List Char} (parts : Parts (tidy url.toList) host number) :
    ∃ name usual user path query fragment,
      (name = "http".toList ∨ name = "https".toList) ∧
      Address.read coding url = do
        let host ← Host.readWeb coding host
        return ⟨.web name usual, user, host, ← readNumber (.web name usual) number, path, query,
          fragment⟩ := by
  generalize whole : tidy url.toList = text at parts
  obtain ⟨scheme, slash, within, behind, all, names⟩ := parts
  rename_i start slashes authority rest
  obtain ⟨name, usual, web, begun⟩ := readScheme?_web scheme (slashes ++ (authority ++ rest))
  obtain ⟨path, query, fragment, read⟩ := readBehindSlashes_eq name usual coding within behind
  obtain ⟨user, readParts⟩ := readAuthority_eq name usual regular names
  refine ⟨name, usual, user, path, query, fragment, web, ?_⟩
  unfold Address.read
  rw [whole, begun]
  simp only [dropWhile_isSlash name usual slash within all, read, readParts]
  cases Host.readWeb coding host with
  | error fault => rfl
  | ok host => cases readNumber (.web name usual) number <;> rfl

/-- A number that an address names is at fault if it does not fit. -/
theorem Parts.readNumber_of_not_fits {text host number : List Char} (parts : Parts text host number)
    (unfit : ¬ Fits number) (scheme : Scheme) : readNumber scheme number = .error .number := by
  obtain ⟨-, -, -, -, -, names⟩ := parts
  rcases names.ends.colon with rfl | ⟨digits, rfl, -⟩
  · exact absurd .absent unfit
  · exact Url.readNumber_of_not_fits unfit scheme

/-! ## Every address of the web has parts -/

/-- Behind one of the two schemes there are always slashes, an authority and a rest. -/
theorem exists_parts {start : List Char}
    (scheme : start = "http:".toList ∨ start = "https:".toList) (text : List Char) :
    ∃ host number, Parts (start ++ text) host number := by
  -- What is a slash and what ends an authority is the same in all schemes of the web.
  let isSlash := (Scheme.web [] 0).isSlash
  let isEnd := (Scheme.web [] 0).endsAuthority
  obtain ⟨slashes, cut, slash⟩ := exists_append_dropWhile isSlash text
  have first := fun c => head?_dropWhile_eq_false (p := isSlash) text (c := c)
  generalize text.dropWhile isSlash = behind at cut first
  obtain ⟨authority, whole, inner⟩ := exists_append_dropWhile (fun c => !isEnd c) behind
  have ended := fun c => head?_dropWhile_eq_false (p := fun c => !isEnd c) behind (c := c)
  generalize behind.dropWhile (fun c => !isEnd c) = rest at whole ended
  obtain ⟨host, number, names⟩ := exists_names authority
  refine ⟨host, number, ?_⟩
  rw [cut, whole]
  refine .intro scheme (fun c member => (isSlash_web_iff [] 0).mp (slash c member)) ?_ ?_ ?_ names
  · intro c member
    rw [← endsAuthority_web_iff [] 0, Bool.not_eq_true, ← Bool.not_eq_true']
    exact inner c member
  · intro c begins
    rw [← endsAuthority_web_iff [] 0, ← Bool.not_eq_false']
    exact ended c begins
  · rintro rfl c begins
    rw [← isSlash_web_iff [] 0, Bool.not_eq_true]
    exact first c (by rw [whole]; exact begins)

/-- A beginning without blanks stays when an address is tidied. -/
theorem tidy_append {start : List Char} (some : start ≠ [])
    (unmargined : start.any isMargin = false) (text : List Char) : ∃ rest, tidy (start ++ text) = start ++ rest := by
  have solid : ∀ c ∈ start, isMargin c = false := by simpa using unmargined
  -- At the end, blanks are dropped from the text, but none from the beginning before it.
  obtain ⟨back, cut, margin⟩ := exists_append_dropWhile isMargin text.reverse
  have inner := fun c => head?_dropWhile_eq_false (p := isMargin) text.reverse (c := c)
  generalize text.reverse.dropWhile isMargin = kept at cut inner
  have begun : (start ++ text).dropWhile isMargin = start ++ text := by
    obtain ⟨c, start, rfl⟩ := List.exists_cons_of_ne_nil some
    exact List.dropWhile_cons_of_neg (by simp [solid c List.mem_cons_self])
  have ended : (start ++ text).reverse.dropWhile isMargin = kept ++ start.reverse := by
    rw [List.reverse_append, cut, List.append_assoc]
    refine dropWhile_append_of_forall margin fun c first => ?_
    cases kept with
    | nil => exact solid c (List.mem_reverse.mp (List.mem_of_head? first))
    | cons c' kept => exact inner c first
  unfold tidy
  rw [begun, ended, List.reverse_append, List.reverse_reverse, List.filter_append]
  refine ⟨_, congrArg (· ++ _) (List.filter_eq_self.mpr fun c member => ?_)⟩
  -- What is taken out of an address is no more than a space.
  have visible := solid c member
  simp only [Bool.and_eq_true, bne_iff_ne]
  refine ⟨⟨?_, ?_⟩, ?_⟩ <;>
    · rintro rfl
      exact Bool.noConfusion visible

end AnalysisDesk.Url
