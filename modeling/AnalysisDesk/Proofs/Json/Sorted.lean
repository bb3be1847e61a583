import AnalysisDesk.Proofs.Json.Syntax

/-! # Members in order
A value that was read has the members of its objects in the order of their keys. Whatever order a
text gives them in, the value read is the sorted one, as long as its containers are not nested too
deep; and a key has the same value before and after. -/

namespace AnalysisDesk.Json

/-! ## Keys -/

/-- The keys of members. -/
def keys (members : List (String × Value)) : List String := members.map Prod.fst

/-- A key has a value if and only if it is among the keys. -/
theorem findMember_eq_none_iff (key : String) (members : List (String × Value)) :
    findMember key members = none ↔ key ∉ keys members := by
  induction members with
  | nil => exact iff_of_true rfl List.not_mem_nil
  | cons member members ih =>
    obtain ⟨other, value⟩ := member
    by_cases same : other = key
    · simp [findMember, keys, same]
    · simpa [findMember, keys, same, Ne.symm same] using ih

/-- The other keys keep their values when a member is put in. -/
theorem findMember_insertMember_of_ne {key other : String} (ne : other ≠ key) (value : Value)
    (members : List (String × Value)) :
    findMember key (insertMember other value members) = findMember key members := by
  induction members with
  | nil => exact if_neg ne
  | cons member members ih =>
    obtain ⟨held, kept⟩ := member
    unfold insertMember
    split
    · exact if_neg ne
    · split
      · rename_i same
        rw [findMember, if_neg ne, findMember, if_neg (same ▸ ne)]
      · rw [findMember, findMember, ih]

/-- Members with distinct keys that are put in one after another are found before those held. -/
theorem findMember_foldl_insertMember (key : String) {members : List (String × Value)}
    (distinct : (keys members).Nodup) (ordered : List (String × Value)) :
    findMember key (members.foldl (fun o m => insertMember m.1 m.2 o) ordered) =
      (findMember key members).or (findMember key ordered) := by
  induction members generalizing ordered with
  | nil => rfl
  | cons member members ih =>
    obtain ⟨other, value⟩ := member
    obtain ⟨new, distinct⟩ := List.nodup_cons.mp distinct
    rw [List.foldl_cons, ih distinct]
    by_cases same : other = key
    · subst same
      -- The key does not come again, so what was just put in is found.
      have absent : findMember other members = none :=
        (findMember_eq_none_iff other members).mpr new
      rw [absent, findMember_insertMember, findMember, if_pos rfl]
      rfl
    · rw [findMember_insertMember_of_ne same, findMember, if_neg same]

/-- **Ordering members** with distinct keys changes no key's value. -/
theorem findMember_orderMembers (key : String) {members : List (String × Value)}
    (distinct : (keys members).Nodup) :
    findMember key (orderMembers members) = findMember key members := by
  unfold orderMembers
  rw [findMember_foldl_insertMember key distinct]
  exact Option.or_none

/-! ## Sorted values -/

mutual

/-- A value with the members of all its objects in order. -/
def Value.sorted : Value → Value
  | .null => .null
  | .bool b => .bool b
  | .number n => .number n
  | .text s => .text s
  | .array items => .array (sortedItems items)
  | .object members => .object (orderMembers (sortedMembers members))

/-- The items, each sorted. -/
def sortedItems : List Value → List Value
  | [] => []
  | item :: items => item.sorted :: sortedItems items

/-- The members as they stand, each value sorted. -/
def sortedMembers : List (String × Value) → List (String × Value)
  | [] => []
  | (key, value) :: members => (key, value.sorted) :: sortedMembers members

end

theorem keys_sortedMembers (members : List (String × Value)) :
    keys (sortedMembers members) = keys members := by
  induction members with
  | nil => rfl
  | cons member members ih => exact congrArg (member.1 :: ·) ih

theorem findMember_sortedMembers (key : String) (members : List (String × Value)) :
    findMember key (sortedMembers members) = (findMember key members).map Value.sorted := by
  induction members with
  | nil => rfl
  | cons member members ih =>
    obtain ⟨other, value⟩ := member
    simp only [sortedMembers, findMember, ih]
    split <;> rfl

/-- **A key's value in a sorted object** is the sorted value. -/
theorem findMember_orderMembers_sortedMembers (key : String) {members : List (String × Value)}
    (distinct : (keys members).Nodup) :
    findMember key (orderMembers (sortedMembers members)) =
      (findMember key members).map Value.sorted := by
  rw [← keys_sortedMembers] at distinct
  rw [findMember_orderMembers key distinct, findMember_sortedMembers]

/-- Texts have nothing to sort. -/
theorem sortedItems_texts (texts : List String) :
    sortedItems (texts.map .text) = texts.map .text := by
  induction texts with
  | nil => rfl
  | cons text texts ih => exact congrArg (Value.text text :: ·) ih

/-! ## Depth -/

mutual

/-- How deep the containers of a value are nested. -/
def Value.depth : Value → Nat
  | .null => 0
  | .bool _ => 0
  | .number _ => 0
  | .text _ => 0
  | .array items => itemsDepth items + 1
  | .object members => membersDepth members + 1

/-- The depth of the deepest item. -/
def itemsDepth : List Value → Nat
  | [] => 0
  | item :: items => max item.depth (itemsDepth items)

/-- The depth of the deepest member. -/
def membersDepth : List (String × Value) → Nat
  | [] => 0
  | (_, value) :: members => max value.depth (membersDepth members)

end

mutual

/-- **The value of a plain tree** that is not too deep is the sorted value. -/
theorem value?_tree (v : Value) (plain : v.Plain) {depth : Nat} (shallow : v.depth ≤ depth) :
    v.tree.value? depth = some v.sorted := by
  match v with
  | .null => rfl
  | .bool _ => rfl
  | .number (.binary _) => exact absurd plain (by simp [Value.Plain])
  | .number (.whole n) =>
    simp only [Value.Plain] at plain
    simp only [Value.tree, Tree.value?, written_whole, value?_writtenWhole plain.1 plain.2]
    rfl
  | .text s =>
    simp only [Value.tree, Tree.value?, decodeText?_piecesOf]
    rfl
  | .array items =>
    simp only [Value.Plain] at plain
    simp only [Value.depth] at shallow
    -- The array is a container itself, so the depth allowed is not zero.
    obtain ⟨depth, rfl⟩ : ∃ d, depth = d + 1 := ⟨depth - 1, by omega⟩
    simp only [Value.tree, Tree.value?,
      itemValues?_itemTrees items plain (Nat.le_of_succ_le_succ shallow)]
    rfl
  | .object members =>
    simp only [Value.Plain] at plain
    simp only [Value.depth] at shallow
    obtain ⟨depth, rfl⟩ : ∃ d, depth = d + 1 := ⟨depth - 1, by omega⟩
    simp only [Value.tree, Tree.value?,
      memberValues?_memberTrees members plain (Nat.le_of_succ_le_succ shallow)]
    rfl

theorem itemValues?_itemTrees (items : List Value) (plain : PlainItems items) {depth : Nat}
    (shallow : itemsDepth items ≤ depth) :
    itemValues? depth (itemTrees items) = some (sortedItems items) := by
  match items with
  | [] => rfl
  | item :: items =>
    simp only [PlainItems] at plain
    simp only [itemsDepth] at shallow
    have head := value?_tree item plain.1 (le_trans (le_max_left _ _) shallow)
    have tail := itemValues?_itemTrees items plain.2 (le_trans (le_max_right _ _) shallow)
    simp only [itemTrees, itemValues?, head, tail]
    rfl

theorem memberValues?_memberTrees (members : List (String × Value)) (plain : PlainMembers members)
    {depth : Nat} (shallow : membersDepth members ≤ depth) :
    memberValues? depth (memberTrees members) = some (sortedMembers members) := by
  match members with
  | [] => rfl
  | (key, value) :: members =>
    simp only [PlainMembers] at plain
    simp only [membersDepth] at shallow
    have head := value?_tree value plain.1 (le_trans (le_max_left _ _) shallow)
    have tail := memberValues?_memberTrees members plain.2 (le_trans (le_max_right _ _) shallow)
    simp only [memberTrees, memberValues?, decodeText?_piecesOf, head, tail]
    rfl

end

/-- **A plain value is read back** from either layout, with its members in order. -/
theorem Written.read? {v : Value} {text : String} (written : Written v text) (plain : v.Plain)
    (shallow : v.depth ≤ depthLimit) : Value.read? text = some v.sorted := by
  unfold Value.read?
  rw [written.tree plain]
  exact value?_tree v plain shallow

end AnalysisDesk.Json
