import AnalysisDesk.Proofs.Service.Record

/-! # What a body says
A body says what the record read from it holds. `Says` tells this without reading members one after
another: it looks at the places where a body may hold the two members that count, takes a member that
is absent or null for nothing, and lists the ways in which a body cannot be read at all. Each body says
just one thing, and that is what the record holds. -/

namespace AnalysisDesk.Json

/-! ## Depth of trees -/

mutual

/-- How deep containers are nested in a tree. -/
def Tree.depth : Tree → Nat
  | .array items => itemTreesDepth items + 1
  | .object members => memberTreesDepth members + 1
  | _ => 0

/-- The depth of the deepest item. -/
def itemTreesDepth : List Tree → Nat
  | [] => 0
  | item :: items => max item.depth (itemTreesDepth items)

/-- The depth of the deepest member. -/
def memberTreesDepth : List (List Piece × Tree) → Nat
  | [] => 0
  | (_, tree) :: members => max tree.depth (memberTreesDepth members)

end

mutual

/-- **A tree that has a value** is not nested deeper than allowed. -/
theorem depth_le_of_value? (tree : Tree) {depth : Nat} {v : Value}
    (read : tree.value? depth = some v) : tree.depth ≤ depth := by
  match tree with
  | .null | .bool _ | .number _ | .text _ => exact Nat.zero_le depth
  | .array items =>
    cases depth with
    | zero => cases read
    | succ depth =>
      rw [Tree.value?] at read
      obtain ⟨values, each, -⟩ := Option.map_eq_some_iff.mp read
      exact Nat.succ_le_succ (itemTreesDepth_le_of_values? items each)
  | .object members =>
    cases depth with
    | zero => cases read
    | succ depth =>
      rw [Tree.value?] at read
      obtain ⟨values, each, -⟩ := Option.map_eq_some_iff.mp read
      exact Nat.succ_le_succ (memberTreesDepth_le_of_values? members each)

theorem itemTreesDepth_le_of_values? (items : List Tree) {depth : Nat} {values : List Value}
    (read : itemValues? depth items = some values) : itemTreesDepth items ≤ depth := by
  match items with
  | [] => exact Nat.zero_le depth
  | item :: items =>
    rw [itemValues?] at read
    obtain ⟨first, hfirst, read⟩ := Option.bind_eq_some_iff.mp read
    obtain ⟨rest, hrest, -⟩ := Option.bind_eq_some_iff.mp read
    exact max_le (depth_le_of_value? item hfirst) (itemTreesDepth_le_of_values? items hrest)

theorem memberTreesDepth_le_of_values? (members : List (List Piece × Tree)) {depth : Nat}
    {values : List (String × Value)} (read : memberValues? depth members = some values) :
    memberTreesDepth members ≤ depth := by
  match members with
  | [] => exact Nat.zero_le depth
  | (key, tree) :: members =>
    rw [memberValues?] at read
    obtain ⟨name, -, read⟩ := Option.bind_eq_some_iff.mp read
    obtain ⟨first, hfirst, read⟩ := Option.bind_eq_some_iff.mp read
    obtain ⟨rest, hrest, -⟩ := Option.bind_eq_some_iff.mp read
    exact max_le (depth_le_of_value? tree hfirst) (memberTreesDepth_le_of_values? members hrest)

end

end AnalysisDesk.Json

namespace AnalysisDesk.Service

open AnalysisDesk.Json

/-! ## The places of the two members -/

/-- The trees under a name among the members of an object, in the order written. -/
def treesOf (name : String) (members : List (List Piece × Tree)) : List Tree :=
  (members.filter fun member => decodeText? member.1 = some name).map (·.2)

/-- The trees of the first member under a name are its own tree or none. -/
theorem treesOf_cons (name : String) (member : List Piece × Tree)
    (members : List (List Piece × Tree)) :
    treesOf name (member :: members) =
      (if decodeText? member.1 = some name then [member.2] else []) ++ treesOf name members := by
  unfold treesOf
  by_cases same : decodeText? member.1 = some name <;> simp [same]

/-- **Where a tree holds the two members**: as an object under their names, as a list at the first
place and behind it. -/
inductive Places : Tree → List Tree → List Tree → Prop
  | object {members : List (List Piece × Tree)}
      (named : ∀ member ∈ members, decodeText? member.1 ≠ none) :
      Places (.object members) (treesOf "data" members) (treesOf "detail" members)
  | list (items : List Tree) : Places (.array items) (items.take 1) (items.drop 1)

/-- A tree holds the two members at one pair of places only. -/
theorem Places.unique {tree : Tree} {data detail data' detail' : List Tree}
    (h : Places tree data detail) (h' : Places tree data' detail') :
    data = data' ∧ detail = detail' := by
  cases h with
  | object =>
    cases h'
    exact ⟨rfl, rfl⟩
  | list =>
    cases h'
    exact ⟨rfl, rfl⟩

/-- **What the trees of a member hold**: nothing if there is none or it is null, else the value of
the only one. -/
inductive Holds : List Tree → Option Value → Prop
  | absent : Holds [] none
  | null {tree : Tree} (read : tree.value? memberDepth = some .null) : Holds [tree] none
  | value {tree : Tree} {v : Value} (read : tree.value? memberDepth = some v)
      (nonnull : v ≠ .null) : Holds [tree] (some v)

/-- At most one tree, if it has a value, holds something or nothing. -/
theorem exists_holds {trees : List Tree} (once : trees.length ≤ 1)
    (readable : ∀ tree ∈ trees, tree.value? memberDepth ≠ none) : ∃ held, Holds trees held := by
  match trees with
  | [] => exact ⟨none, .absent⟩
  | [tree] =>
    obtain ⟨v, read⟩ := Option.ne_none_iff_exists'.mp (readable tree List.mem_cons_self)
    by_cases null : v = .null
    · exact ⟨none, .null (null ▸ read)⟩
    · exact ⟨some v, .value read null⟩
  | _ :: _ :: _ => exact absurd once (by simp)

theorem Holds.length_le {trees : List Tree} {held : Option Value} (h : Holds trees held) :
    trees.length ≤ 1 := by
  cases h with
  | absent => exact Nat.zero_le 1
  | null | value => exact Nat.le_refl 1

theorem Holds.value?_ne_none {trees : List Tree} {held : Option Value} (h : Holds trees held)
    {tree : Tree} (mem : tree ∈ trees) : tree.value? memberDepth ≠ none := by
  cases h with
  | absent => cases mem
  | null read => simp [List.mem_singleton.mp mem, read]
  | value read => simp [List.mem_singleton.mp mem, read]

/-! ## Reading the members of an object -/

/-- What is held of a member before and after its trees are read: none may come on top of another. -/
inductive Fills : Option Value → List Tree → Option Value → Prop
  | still (held : Option Value) : Fills held [] held
  | first {tree : Tree} {v : Value} (read : tree.value? memberDepth = some v) :
      Fills none [tree] (some v)

/-- Trees are read one part after the other. -/
theorem fills_append_iff {before after : Option Value} {trees more : List Tree} :
    Fills before (trees ++ more) after ↔
      ∃ between, Fills before trees between ∧ Fills between more after := by
  constructor
  · intro h
    cases trees with
    | nil => exact ⟨before, .still before, h⟩
    | cons tree trees =>
      generalize same : tree :: trees ++ more = all at h
      cases h with
      | still => cases same
      | first read =>
        obtain ⟨rfl, none⟩ := List.cons.inj same
        obtain ⟨rfl, rfl⟩ := List.append_eq_nil_iff.mp none
        exact ⟨_, .first read, .still _⟩
  · rintro ⟨between, h, h'⟩
    cases h with
    | still => exact h'
    | first read =>
      cases h'
      exact .first read

/-- What is held in the end counts unless it is null. -/
theorem holds_of_fills {trees : List Tree} {held : Option Value} (h : Fills none trees held) :
    Holds trees (held.bind present) := by
  cases h with
  | still => exact .absent
  | @first tree v read =>
    cases v with
    | null => exact .null read
    | bool | number | text | array | object => exact .value read nofun

/-- What counts was read, and nothing else was. -/
theorem exists_fills_of_holds {trees : List Tree} {counted : Option Value}
    (h : Holds trees counted) : ∃ held, Fills none trees held ∧ held.bind present = counted := by
  cases h with
  | absent => exact ⟨none, .still none, rfl⟩
  | null read => exact ⟨some .null, .first read, rfl⟩
  | @value tree v read nonnull =>
    refine ⟨some v, .first read, ?_⟩
    cases v with
    | null => exact absurd rfl nonnull
    | bool | number | text | array | object => rfl

/-- Nothing is filled in without a tree. -/
theorem fills_nil_iff {before after : Option Value} : Fills before [] after ↔ before = after := by
  constructor
  · rintro ⟨⟩
    rfl
  · rintro rfl
    exact .still _

/-- One tree is filled in where nothing is held yet, if it has a value. -/
theorem fills_singleton_iff {before after : Option Value} {tree : Tree} :
    Fills before [tree] after ↔
      before = none ∧ ∃ v, tree.value? memberDepth = some v ∧ some v = after := by
  constructor
  · rintro (_ | ⟨read⟩)
    exact ⟨rfl, _, read, rfl⟩
  · rintro ⟨rfl, v, read, rfl⟩
    exact .first read

/-- **One more member is read** if its name is text and it does not come on top of another. -/
theorem add?_eq_some_iff {held next : Members} {member : List Piece × Tree} :
    held.add? member = some next ↔ decodeText? member.1 ≠ none ∧
      Fills held.data (if decodeText? member.1 = some "data" then [member.2] else []) next.data ∧
      Fills held.detail (if decodeText? member.1 = some "detail" then [member.2] else [])
        next.detail := by
  obtain ⟨heldData, heldDetail⟩ := held
  obtain ⟨nextData, nextDetail⟩ := next
  unfold Members.add?
  cases named : decodeText? member.1 with
  | none => simp
  | some name =>
    -- Each name fills at most one of the two members and leaves the other as it was.
    by_cases data : name = "data"
    · subst data
      cases heldData with
      | none => simp [fills_nil_iff, fills_singleton_iff, Option.bind_eq_some_iff, ← and_assoc]
      | some v => simp [fills_singleton_iff]
    · by_cases detail : name = "detail"
      · subst detail
        cases heldDetail with
        | none => simp [fills_nil_iff, fills_singleton_iff, Option.bind_eq_some_iff, and_left_comm]
        | some v => simp [fills_singleton_iff]
      · simp [data, detail, fills_nil_iff]

/-- **Members are read one after another** if their names are texts and neither of the two that count
comes twice; the order does not matter. -/
theorem foldlM_add?_eq_some_iff {members : List (List Piece × Tree)} {held last : Members} :
    members.foldlM Members.add? held = some last ↔
      (∀ member ∈ members, decodeText? member.1 ≠ none) ∧
        Fills held.data (treesOf "data" members) last.data ∧
        Fills held.detail (treesOf "detail" members) last.detail := by
  induction members generalizing held with
  | nil =>
    obtain ⟨heldData, heldDetail⟩ := held
    obtain ⟨lastData, lastDetail⟩ := last
    simp [treesOf, fills_nil_iff]
  | cons member members ih =>
    rw [List.foldlM_cons, treesOf_cons, treesOf_cons, fills_append_iff, fills_append_iff,
      List.forall_mem_cons]
    constructor
    · intro read
      obtain ⟨next, added, read⟩ := Option.bind_eq_some_iff.mp read
      obtain ⟨named, data, detail⟩ := add?_eq_some_iff.mp added
      obtain ⟨names, moreData, moreDetail⟩ := ih.mp read
      exact ⟨⟨named, names⟩, ⟨_, data, moreData⟩, _, detail, moreDetail⟩
    · rintro ⟨⟨named, names⟩, ⟨nextData, data, moreData⟩, nextDetail, detail, moreDetail⟩
      have added : held.add? member = some ⟨nextData, nextDetail⟩ :=
        add?_eq_some_iff.mpr ⟨named, data, detail⟩
      have read : members.foldlM Members.add? ⟨nextData, nextDetail⟩ = some last :=
        ih.mpr ⟨names, moreData, moreDetail⟩
      exact Option.bind_eq_some_iff.mpr ⟨_, added, read⟩

/-! ## The record of a tree -/

/-- **A tree tells a record** if what it holds at the places of the two members is what the record
has. -/
def Tells (tree : Tree) (record : Record) : Prop :=
  ∃ data detail, Places tree data detail ∧ Holds data record.data ∧ Holds detail record.detail

/-- A record is read from the members of an object. -/
theorem ofTree?_object_eq_some_iff {members : List (List Piece × Tree)} {record : Record} :
    Record.ofTree? (.object members) = some record ↔ Tells (.object members) record := by
  rw [Record.ofTree?, Option.map_eq_some_iff]
  constructor
  · rintro ⟨last, read, rfl⟩
    obtain ⟨names, data, detail⟩ := foldlM_add?_eq_some_iff.mp read
    exact ⟨_, _, .object names, holds_of_fills data, holds_of_fills detail⟩
  · rintro ⟨data, detail, places, holdsData, holdsDetail⟩
    cases places with
    | object names =>
      obtain ⟨data, fillsData, countsData⟩ := exists_fills_of_holds holdsData
      obtain ⟨detail, fillsDetail, countsDetail⟩ := exists_fills_of_holds holdsDetail
      refine ⟨⟨data, detail⟩, foldlM_add?_eq_some_iff.mpr ⟨names, fillsData, fillsDetail⟩, ?_⟩
      rw [Members.record, countsData, countsDetail]

/-- One tree holds what its value counts for. -/
theorem holds_singleton_iff {tree : Tree} {held : Option Value} :
    Holds [tree] held ↔ ∃ v, tree.value? memberDepth = some v ∧ present v = held := by
  constructor
  · intro h
    obtain ⟨read, filled, counted⟩ := exists_fills_of_holds h
    obtain ⟨-, v, value, rfl⟩ := fills_singleton_iff.mp filled
    exact ⟨v, value, counted⟩
  · rintro ⟨v, read, rfl⟩
    exact holds_of_fills (.first read)

/-- Without a tree nothing is held. -/
theorem holds_nil_iff {held : Option Value} : Holds [] held ↔ none = held := by
  constructor
  · rintro ⟨⟩
    rfl
  · rintro rfl
    exact .absent

/-- A record is read from the items of a list. -/
theorem ofTree?_array_eq_some_iff {items : List Tree} {record : Record} :
    Record.ofTree? (.array items) = some record ↔ Tells (.array items) record := by
  have tells : Tells (.array items) record ↔
      Holds (items.take 1) record.data ∧ Holds (items.drop 1) record.detail := by
    constructor
    · rintro ⟨data, detail, places, holds⟩
      cases places
      exact holds
    · exact fun holds => ⟨_, _, .list items, holds⟩
  rw [tells]
  obtain ⟨data, detail⟩ := record
  match items with
  | [] => simp [Record.ofTree?, Record.empty, holds_nil_iff]
  | [first] =>
    simp [Record.ofTree?, holds_nil_iff, holds_singleton_iff, Option.bind_eq_some_iff, ← and_assoc]
  | [first, second] =>
    have apart : Holds ([first, second].take 1) data ∧ Holds ([first, second].drop 1) detail ↔
        (∃ v, first.value? memberDepth = some v ∧ present v = data) ∧
          ∃ v, second.value? memberDepth = some v ∧ present v = detail := by
      rw [List.take_succ_cons, List.take_zero, List.drop_succ_cons, List.drop_zero,
        holds_singleton_iff, holds_singleton_iff]
    rw [apart]
    simp only [Record.ofTree?, bind, pure, Option.bind_eq_some_iff, Option.some.injEq,
      Record.mk.injEq]
    constructor
    · rintro ⟨v, read, w, also, data, detail⟩
      exact ⟨⟨v, read, data⟩, w, also, detail⟩
    · rintro ⟨⟨v, read, data⟩, w, also, detail⟩
      exact ⟨v, read, w, also, data, detail⟩
  | first :: second :: third :: more =>
    have long : ¬ Holds (second :: third :: more) detail := fun h => by
      simpa using h.length_le
    simp [Record.ofTree?, long]

/-- **The record of a tree** is what the tree tells, if it tells anything. -/
theorem ofTree?_eq_some_iff {tree : Tree} {record : Record} :
    Record.ofTree? tree = some record ↔ Tells tree record := by
  cases tree with
  | object members => exact ofTree?_object_eq_some_iff
  | array items => exact ofTree?_array_eq_some_iff
  | null | bool | number | text =>
    exact iff_of_false nofun fun ⟨_, _, places, _⟩ => nomatch places

/-! ## Bodies that cannot be read -/

/-- **A body cannot be read** as a record. -/
inductive Unreadable (body : String) : Prop
  /-- It is not JSON. -/
  | syntaxFault (none : Tree.read? body.toList = none)
  /-- It is neither an object nor a list. -/
  | form {tree : Tree} (read : Tree.read? body.toList = some tree)
      (noObject : ∀ members, tree ≠ .object members) (noList : ∀ items, tree ≠ .array items)
  /-- It is a list of more than two. -/
  | long {items : List Tree} (read : Tree.read? body.toList = some (.array items))
      (more : 2 < items.length)
  /-- One of the two members comes twice. -/
  | twice {members : List (List Piece × Tree)} {name : String}
      (read : Tree.read? body.toList = some (.object members))
      (counts : name = "data" ∨ name = "detail") (more : 1 < (treesOf name members).length)
  /-- The name of a member is not text. -/
  | name {members : List (List Piece × Tree)} {member : List Piece × Tree}
      (read : Tree.read? body.toList = some (.object members)) (mem : member ∈ members)
      (nameless : decodeText? member.1 = none)
  /-- One of the two members is nested too deep. -/
  | deep {tree member : Tree} {data detail : List Tree}
      (read : Tree.read? body.toList = some tree) (places : Places tree data detail)
      (mem : member ∈ data ++ detail) (deep : memberDepth < member.depth)
  /-- One of the two members has no value: a number is out of range, or a string is no text. -/
  | value {tree member : Tree} {data detail : List Tree}
      (read : Tree.read? body.toList = some tree) (places : Places tree data detail)
      (mem : member ∈ data ++ detail) (none : member.value? memberDepth = none)

/-- A tree that tells something holds at most one value for each of the two members. -/
theorem Tells.readable {tree : Tree} {record : Record} (tells : Tells tree record)
    {data detail : List Tree} (places : Places tree data detail) :
    data.length ≤ 1 ∧ detail.length ≤ 1 ∧
      ∀ member ∈ data ++ detail, member.value? memberDepth ≠ none := by
  obtain ⟨data', detail', places', holdsData, holdsDetail⟩ := tells
  obtain ⟨rfl, rfl⟩ := places.unique places'
  refine ⟨holdsData.length_le, holdsDetail.length_le, fun member mem => ?_⟩
  exact (List.mem_append.mp mem).elim holdsData.value?_ne_none holdsDetail.value?_ne_none

/-- **A body that cannot be read** tells nothing. -/
theorem Unreadable.not_tells {body : String} (h : Unreadable body) {tree : Tree}
    (found : Tree.read? body.toList = some tree) (record : Record) : ¬ Tells tree record := by
  intro tells
  cases h with
  | syntaxFault none =>
    rw [none] at found
    cases found
  | form read noObject noList =>
    obtain rfl := Option.some.inj (read.symm.trans found)
    obtain ⟨data, detail, places, -⟩ := tells
    cases places with
    | object => exact noObject _ rfl
    | list => exact noList _ rfl
  | @long items read more =>
    obtain rfl := Option.some.inj (read.symm.trans found)
    have once := (tells.readable (.list items)).2.1
    rw [List.length_drop] at once
    omega
  | twice read counts more =>
    obtain rfl := Option.some.inj (read.symm.trans found)
    have ⟨data, detail, places, _⟩ := tells
    obtain ⟨onceData, onceDetail, -⟩ := tells.readable places
    cases places
    rcases counts with rfl | rfl
    · exact absurd more (not_lt.mpr onceData)
    · exact absurd more (not_lt.mpr onceDetail)
  | name read mem nameless =>
    obtain rfl := Option.some.inj (read.symm.trans found)
    obtain ⟨data, detail, places, -⟩ := tells
    cases places with
    | object named => exact named _ mem nameless
  | deep read places mem deep =>
    obtain rfl := Option.some.inj (read.symm.trans found)
    obtain ⟨v, value⟩ := Option.ne_none_iff_exists'.mp ((tells.readable places).2.2 _ mem)
    exact absurd (depth_le_of_value? _ value) (not_le.mpr deep)
  | value read places mem none =>
    obtain rfl := Option.some.inj (read.symm.trans found)
    exact (tells.readable places).2.2 _ mem none

/-- A tree tells something if it has places for the two members and each holds one value at most. -/
theorem exists_tells {tree : Tree} {data detail : List Tree} (places : Places tree data detail)
    (onceData : data.length ≤ 1) (onceDetail : detail.length ≤ 1)
    (readable : ∀ member ∈ data ++ detail, member.value? memberDepth ≠ none) :
    ∃ record, Tells tree record := by
  obtain ⟨readableData, readableDetail⟩ := List.forall_mem_append.mp readable
  obtain ⟨heldData, holdsData⟩ := exists_holds onceData readableData
  obtain ⟨heldDetail, holdsDetail⟩ := exists_holds onceDetail readableDetail
  exact ⟨⟨heldData, heldDetail⟩, data, detail, places, holdsData, holdsDetail⟩

/-- **A body that tells nothing** cannot be read, for one of the reasons listed. -/
theorem unreadable_of_not_tells {body : String}
    (silent : ∀ tree, Tree.read? body.toList = some tree → ∀ record, ¬ Tells tree record) :
    Unreadable body := by
  by_contra fine
  cases found : Tree.read? body.toList with
  | none => exact fine (.syntaxFault found)
  | some tree =>
    have value {data detail : List Tree} (places : Places tree data detail) :
        ∀ member ∈ data ++ detail, member.value? memberDepth ≠ none :=
      fun member mem none => fine (.value found places mem none)
    have tells : ∃ record, Tells tree record := by
      cases tree with
      | null | bool | number | text => exact absurd (.form found nofun nofun) fine
      | array items =>
        have short : items.length ≤ 2 := not_lt.mp fun more => fine (.long found more)
        refine exists_tells (.list items) ?_ ?_ (value (.list items))
        · exact List.length_take_le 1 items
        · rw [List.length_drop]
          omega
      | object members =>
        have named : ∀ member ∈ members, decodeText? member.1 ≠ none :=
          fun member mem nameless => fine (.name found mem nameless)
        refine exists_tells (.object named) ?_ ?_ (value (.object named))
        · exact not_lt.mp fun more => fine (.twice found (.inl rfl) more)
        · exact not_lt.mp fun more => fine (.twice found (.inr rfl) more)
    obtain ⟨record, tells⟩ := tells
    exact silent tree found record tells

/-! ## What a body says -/

/-- **A body says** what its tree tells; a body that cannot be read says nothing. -/
inductive Says (body : String) : Record → Prop
  | read {tree : Tree} {record : Record} (found : Tree.read? body.toList = some tree)
      (tells : Tells tree record) : Says body record
  | unreadable (h : Unreadable body) : Says body .empty

/-- **The record of a body** is what the body says, and a body says one thing only. -/
theorem says_iff {body : String} {record : Record} :
    Says body record ↔ record = Record.ofBody body := by
  unfold Record.ofBody Record.read?
  constructor
  · rintro (⟨found, tells⟩ | ⟨unreadable⟩)
    · rw [found]
      change record = (Record.ofTree? _).getD .empty
      rw [ofTree?_eq_some_iff.mpr tells]
      rfl
    · cases found : Tree.read? body.toList with
      | none => rfl
      | some tree =>
        have silent : Record.ofTree? tree = none := Option.eq_none_iff_forall_ne_some.mpr
          fun record told => unreadable.not_tells found record (ofTree?_eq_some_iff.mp told)
        change _ = (Record.ofTree? tree).getD .empty
        rw [silent]
        rfl
  · rintro rfl
    by_cases told : ∃ tree record, Tree.read? body.toList = some tree ∧ Tells tree record
    · obtain ⟨tree, record, found, tells⟩ := told
      rw [found]
      change Says body ((Record.ofTree? tree).getD .empty)
      rw [ofTree?_eq_some_iff.mpr tells]
      exact .read found tells
    · have silent : ∀ tree, Tree.read? body.toList = some tree → ∀ record, ¬ Tells tree record :=
        fun tree found record tells => told ⟨tree, record, found, tells⟩
      have nothing : (do Record.ofTree? (← Tree.read? body.toList)) = none := by
        refine Option.bind_eq_none_iff.mpr fun tree found => ?_
        exact Option.eq_none_iff_forall_ne_some.mpr
          fun record told => silent tree found record (ofTree?_eq_some_iff.mp told)
      rw [nothing]
      exact .unreadable (unreadable_of_not_tells silent)

end AnalysisDesk.Service
