import AnalysisDesk.Proofs.Json.Sorted
import Mathlib.Data.String.Basic

/-! # Values that were read
A value that was read is canonical: its whole numbers fit in 64 bits, the members of its objects are
in the order of their keys, each key once, and its containers are nested no deeper than allowed. A
canonical value without binary numbers is read back from its own text, just as it is. -/

namespace AnalysisDesk.Json

/-! ## Order of members -/

@[simp] theorem keys_append (members more : List (String × Value)) :
    keys (members ++ more) = keys members ++ keys more :=
  List.map_append

/-- The members after one was put in are that one and those held before. -/
theorem mem_of_mem_insertMember {key : String} {value : Value} {member : String × Value}
    {members : List (String × Value)} (h : member ∈ insertMember key value members) :
    member = (key, value) ∨ member ∈ members := by
  induction members with
  | nil => exact .inl (List.mem_singleton.mp h)
  | cons first members ih =>
    obtain ⟨other, held⟩ := first
    unfold insertMember at h
    split at h
    · exact List.mem_cons.mp h
    · split at h
      · exact (List.mem_cons.mp h).imp_right (List.mem_cons_of_mem _)
      · rcases List.mem_cons.mp h with rfl | h
        · exact .inr List.mem_cons_self
        · exact (ih h).imp_right (List.mem_cons_of_mem _)

/-- Putting a member in keeps the order of the keys. -/
theorem ordered_insertMember (key : String) (value : Value) {members : List (String × Value)}
    (ordered : (keys members).Pairwise (· < ·)) :
    (keys (insertMember key value members)).Pairwise (· < ·) := by
  induction members with
  | nil => exact List.pairwise_singleton _ _
  | cons first members ih =>
    obtain ⟨other, held⟩ := first
    obtain ⟨least, ordered'⟩ := List.pairwise_cons.mp ordered
    unfold insertMember
    split
    · -- The new key comes before the first one, and so before all of them.
      rename_i before
      refine List.pairwise_cons.mpr ⟨fun k hk => ?_, ordered⟩
      rcases List.mem_cons.mp hk with rfl | hk
      · exact before
      · exact lt_trans before (least k hk)
    · split
      · rename_i same
        exact same ▸ ordered
      · rename_i notBefore differs
        refine List.pairwise_cons.mpr ⟨fun k hk => ?_, ih ordered'⟩
        obtain ⟨member, hmem, rfl⟩ := List.mem_map.mp hk
        rcases mem_of_mem_insertMember hmem with rfl | hmem
        · exact lt_of_le_of_ne (not_lt.mp notBefore) (Ne.symm differs)
        · exact least _ (List.mem_map_of_mem hmem)

/-- Members put in one after another are among those held and those put in, and stay in order. -/
theorem foldl_insertMember_spec (members : List (String × Value)) {held : List (String × Value)}
    (ordered : (keys held).Pairwise (· < ·)) :
    (keys (members.foldl (fun o m => insertMember m.1 m.2 o) held)).Pairwise (· < ·) ∧
      ∀ member ∈ members.foldl (fun o m => insertMember m.1 m.2 o) held,
        member ∈ held ∨ member ∈ members := by
  induction members generalizing held with
  | nil => exact ⟨ordered, fun _ h => .inl h⟩
  | cons first members ih =>
    obtain ⟨ordered', among⟩ := ih (ordered_insertMember first.1 first.2 ordered)
    refine ⟨ordered', fun member h => ?_⟩
    rcases among member h with h | h
    · rcases mem_of_mem_insertMember h with rfl | h
      · exact .inr List.mem_cons_self
      · exact .inl h
    · exact .inr (List.mem_cons_of_mem _ h)

/-- **Ordered members** are in the order of their keys. -/
theorem ordered_orderMembers (members : List (String × Value)) :
    (keys (orderMembers members)).Pairwise (· < ·) :=
  (foldl_insertMember_spec members List.Pairwise.nil).1

/-- Ordering makes no members. -/
theorem mem_of_mem_orderMembers {member : String × Value} {members : List (String × Value)}
    (h : member ∈ orderMembers members) : member ∈ members :=
  ((foldl_insertMember_spec members List.Pairwise.nil).2 member h).resolve_left List.not_mem_nil

/-- A member with the greatest key goes to the end. -/
theorem insertMember_of_forall_lt {key : String} {members : List (String × Value)}
    (greatest : ∀ k ∈ keys members, k < key) (value : Value) :
    insertMember key value members = members ++ [(key, value)] := by
  induction members with
  | nil => rfl
  | cons first members ih =>
    obtain ⟨other, held⟩ := first
    obtain ⟨before, greatest⟩ := List.forall_mem_cons.mp greatest
    rw [insertMember, if_neg (lt_asymm before), if_neg (ne_of_gt before), ih greatest,
      List.cons_append]

/-- Members in order that come behind others in order are put in as they stand. -/
theorem foldl_insertMember_of_ordered (held : List (String × Value))
    {members : List (String × Value)} (ordered : (keys (held ++ members)).Pairwise (· < ·)) :
    members.foldl (fun o m => insertMember m.1 m.2 o) held = held ++ members := by
  induction members generalizing held with
  | nil => exact (List.append_nil held).symm
  | cons first members ih =>
    have greatest : ∀ k ∈ keys held, k < first.1 := by
      rw [keys_append] at ordered
      exact fun k hk => (List.pairwise_append.mp ordered).2.2 k hk first.1 List.mem_cons_self
    rw [List.append_cons] at ordered
    rw [List.foldl_cons, insertMember_of_forall_lt greatest, ih _ ordered, ← List.append_cons]

/-- Members in order stay as they are. -/
theorem orderMembers_of_ordered {members : List (String × Value)}
    (ordered : (keys members).Pairwise (· < ·)) : orderMembers members = members :=
  foldl_insertMember_of_ordered [] ordered

/-- A member that was found is one of the members. -/
theorem mem_of_findMember {key : String} {value : Value} {members : List (String × Value)}
    (found : findMember key members = some value) : (key, value) ∈ members := by
  induction members with
  | nil => cases found
  | cons first members ih =>
    obtain ⟨other, held⟩ := first
    rw [findMember] at found
    split at found
    · rename_i same
      cases found
      exact same ▸ List.mem_cons_self
    · exact List.mem_cons_of_mem _ (ih found)

/-- A member of members with distinct keys is found. -/
theorem findMember_of_mem {key : String} {value : Value} {members : List (String × Value)}
    (distinct : (keys members).Nodup) (h : (key, value) ∈ members) :
    findMember key members = some value := by
  induction members with
  | nil => cases h
  | cons first members ih =>
    obtain ⟨new, distinct⟩ := List.nodup_cons.mp distinct
    rcases List.mem_cons.mp h with rfl | h
    · exact if_pos rfl
    · have differs : first.1 ≠ key := fun same => new (same ▸ List.mem_map_of_mem h)
      rw [findMember, if_neg differs]
      exact ih distinct h

/-! ## Canonical values -/

/-- A number that can be read: a whole one fits in 64 bits. -/
def Numeral.Fits : Numeral → Prop
  | .whole n => -2 ^ 63 ≤ n ∧ n < 2 ^ 64
  | .binary _ => True

/-- **A canonical value** with at most so many containers around anything in it. -/
inductive Value.Canonical : Nat → Value → Prop
  | null (depth : Nat) : Canonical depth .null
  | bool (depth : Nat) (b : Bool) : Canonical depth (.bool b)
  | number (depth : Nat) {n : Numeral} (fits : n.Fits) : Canonical depth (.number n)
  | text (depth : Nat) (s : String) : Canonical depth (.text s)
  | array {depth : Nat} {items : List Value} (each : ∀ item ∈ items, Canonical depth item) :
      Canonical (depth + 1) (.array items)
  | object {depth : Nat} {members : List (String × Value)}
      (ordered : (keys members).Pairwise (· < ·))
      (each : ∀ member ∈ members, Canonical depth member.2) :
      Canonical (depth + 1) (.object members)

mutual

/-- No number in a value is binary. -/
def Value.Integral : Value → Prop
  | .null => True
  | .bool _ => True
  | .number (.whole _) => True
  | .number (.binary _) => False
  | .text _ => True
  | .array items => IntegralItems items
  | .object members => IntegralMembers members

/-- No number in the items is binary. -/
def IntegralItems : List Value → Prop
  | [] => True
  | item :: items => item.Integral ∧ IntegralItems items

/-- No number in the values of the members is binary. -/
def IntegralMembers : List (String × Value) → Prop
  | [] => True
  | (_, value) :: members => value.Integral ∧ IntegralMembers members

end

theorem plainItems_of_integral {items : List Value}
    (each : ∀ item ∈ items, item.Integral → item.Plain) (integral : IntegralItems items) :
    PlainItems items := by
  induction items with
  | nil => trivial
  | cons item items ih =>
    obtain ⟨first, rest⟩ := List.forall_mem_cons.mp each
    simp only [IntegralItems] at integral
    simp only [PlainItems]
    exact ⟨first integral.1, ih rest integral.2⟩

theorem plainMembers_of_integral {members : List (String × Value)}
    (each : ∀ member ∈ members, member.2.Integral → member.2.Plain)
    (integral : IntegralMembers members) : PlainMembers members := by
  induction members with
  | nil => trivial
  | cons member members ih =>
    obtain ⟨first, rest⟩ := List.forall_mem_cons.mp each
    simp only [IntegralMembers] at integral
    simp only [PlainMembers]
    exact ⟨first integral.1, ih rest integral.2⟩

theorem itemsDepth_le {depth : Nat} {items : List Value}
    (each : ∀ item ∈ items, item.depth ≤ depth) : itemsDepth items ≤ depth := by
  induction items with
  | nil => exact Nat.zero_le depth
  | cons item items ih =>
    obtain ⟨first, rest⟩ := List.forall_mem_cons.mp each
    simp only [itemsDepth]
    exact max_le first (ih rest)

theorem membersDepth_le {depth : Nat} {members : List (String × Value)}
    (each : ∀ member ∈ members, member.2.depth ≤ depth) : membersDepth members ≤ depth := by
  induction members with
  | nil => exact Nat.zero_le depth
  | cons member members ih =>
    obtain ⟨first, rest⟩ := List.forall_mem_cons.mp each
    simp only [membersDepth]
    exact max_le first (ih rest)

theorem sortedItems_eq_self {items : List Value} (each : ∀ item ∈ items, item.sorted = item) :
    sortedItems items = items := by
  induction items with
  | nil => rfl
  | cons item items ih =>
    obtain ⟨first, rest⟩ := List.forall_mem_cons.mp each
    rw [sortedItems, first, ih rest]

theorem sortedMembers_eq_self {members : List (String × Value)}
    (each : ∀ member ∈ members, member.2.sorted = member.2) : sortedMembers members = members := by
  induction members with
  | nil => rfl
  | cons member members ih =>
    obtain ⟨first, rest⟩ := List.forall_mem_cons.mp each
    rw [sortedMembers, first, ih rest]

namespace Value.Canonical

variable {depth : Nat} {v : Value}

/-- The containers of a canonical value are nested as deep as allowed at most. -/
theorem depth_le (h : v.Canonical depth) : v.depth ≤ depth := by
  induction h with
  | array _ ih => exact Nat.succ_le_succ (itemsDepth_le ih)
  | object _ _ ih => exact Nat.succ_le_succ (membersDepth_le ih)
  | _ => exact Nat.zero_le _

/-- Sorting leaves a canonical value as it is. -/
theorem sorted_eq (h : v.Canonical depth) : v.sorted = v := by
  induction h with
  | array _ ih => rw [Value.sorted, sortedItems_eq_self ih]
  | object ordered _ ih =>
    rw [Value.sorted, sortedMembers_eq_self ih, orderMembers_of_ordered ordered]
  | _ => rfl

/-- A canonical value without binary numbers is plain. -/
theorem plain (h : v.Canonical depth) (integral : v.Integral) : v.Plain := by
  induction h with
  | @number _ n fits =>
    cases n with
    | whole n => exact fits
    | binary x => exact integral.elim
  | array _ ih =>
    simp only [Value.Integral] at integral
    simp only [Value.Plain]
    exact plainItems_of_integral ih integral
  | object _ _ ih =>
    simp only [Value.Integral] at integral
    simp only [Value.Plain]
    exact plainMembers_of_integral ih integral
  | _ => trivial

/-- **A canonical value is read back** from either layout, if none of its numbers is binary. -/
theorem read?_of_written (h : v.Canonical depth) (shallow : depth ≤ depthLimit)
    (integral : v.Integral) {text : String} (written : Written v text) :
    Value.read? text = some v := by
  rw [written.read? (h.plain integral) (le_trans h.depth_le shallow), h.sorted_eq]

end Value.Canonical

/-! ## What is read is canonical -/

/-- Digits that are collected fit in 64 bits. -/
theorem Collected.digits_addWhole_lt {c : Collected} (h : c.digits < word) (digit : Nat) :
    (c.addWhole digit).digits < word := by
  unfold addWhole
  split
  · exact h
  · rename_i fits
    simp only [Bool.or_eq_true, decide_eq_true_eq, not_or, not_le] at fits
    exact fits.2

theorem Collected.digits_addFraction_lt {c : Collected} (h : c.digits < word) (digit : Nat) :
    (c.addFraction digit).digits < word := by
  unfold addFraction
  split
  · exact h
  · rename_i fits
    simp only [Bool.or_eq_true, decide_eq_true_eq, not_or, not_le] at fits
    exact fits.2

/-- **The collected digits** of a number fit in 64 bits, however many it has. -/
theorem WrittenNumber.digits_collect_lt (n : WrittenNumber) : n.collect.digits < word := by
  have kept {add : Collected → Nat → Collected}
      (step : ∀ {c : Collected}, c.digits < word → ∀ digit, (add c digit).digits < word)
      (digits : List Nat) {c : Collected} (h : c.digits < word) :
      (digits.foldl add c).digits < word := by
    induction digits generalizing c with
    | nil => exact h
    | cons digit digits ih => exact ih (step h digit)
  have whole : (n.whole.foldl Collected.addWhole ⟨0, 0, false⟩).digits < word :=
    kept Collected.digits_addWhole_lt n.whole (Nat.pow_pos (by decide))
  unfold collect
  split
  · exact whole
  · exact kept Collected.digits_addFraction_lt _ whole

/-- A number that was read fits. -/
theorem WrittenNumber.fits_of_value? {written : WrittenNumber} {n : Numeral}
    (read : written.value? = some n) : n.Fits := by
  have digits := written.digits_collect_lt
  simp only [word, Nat.pow_eq] at digits
  unfold value? at read
  simp only [Nat.pow_eq] at read
  split_ifs at read with _ _ outside
  · cases read
    simp only [Numeral.Fits]
    omega
  · obtain ⟨x, -, rfl⟩ := Option.map_eq_some_iff.mp read
    trivial
  · cases read
    simp only [Bool.or_eq_true, decide_eq_true_eq, not_or, not_lt] at outside
    simp only [Numeral.Fits]
    omega
  · obtain ⟨x, -, rfl⟩ := Option.map_eq_some_iff.mp read
    trivial

mutual

/-- **A value that was read is canonical.** -/
theorem canonical_of_value? (tree : Tree) {depth : Nat} {v : Value}
    (read : tree.value? depth = some v) : v.Canonical depth := by
  match tree with
  | .null =>
    cases read
    exact .null depth
  | .bool b =>
    cases read
    exact .bool depth b
  | .number written =>
    rw [Tree.value?] at read
    obtain ⟨n, fits, rfl⟩ := Option.map_eq_some_iff.mp read
    exact .number depth (WrittenNumber.fits_of_value? fits)
  | .text pieces =>
    rw [Tree.value?] at read
    obtain ⟨s, -, rfl⟩ := Option.map_eq_some_iff.mp read
    exact .text depth s
  | .array items =>
    -- A container is read only if at least one is allowed.
    cases depth with
    | zero => cases read
    | succ depth =>
      rw [Tree.value?] at read
      obtain ⟨values, each, rfl⟩ := Option.map_eq_some_iff.mp read
      exact .array (canonical_of_itemValues? items each)
  | .object members =>
    cases depth with
    | zero => cases read
    | succ depth =>
      rw [Tree.value?] at read
      obtain ⟨values, each, rfl⟩ := Option.map_eq_some_iff.mp read
      refine .object (ordered_orderMembers values) fun member hmem => ?_
      exact canonical_of_memberValues? members each member (mem_of_mem_orderMembers hmem)

theorem canonical_of_itemValues? (items : List Tree) {depth : Nat} {values : List Value}
    (read : itemValues? depth items = some values) : ∀ v ∈ values, v.Canonical depth := by
  match items with
  | [] =>
    cases read
    exact fun v hmem => absurd hmem List.not_mem_nil
  | item :: items =>
    rw [itemValues?] at read
    obtain ⟨first, hfirst, read⟩ := Option.bind_eq_some_iff.mp read
    obtain ⟨rest, hrest, read⟩ := Option.bind_eq_some_iff.mp read
    cases read
    exact List.forall_mem_cons.mpr
      ⟨canonical_of_value? item hfirst, canonical_of_itemValues? items hrest⟩

theorem canonical_of_memberValues? (members : List (List Piece × Tree)) {depth : Nat}
    {values : List (String × Value)} (read : memberValues? depth members = some values) :
    ∀ member ∈ values, member.2.Canonical depth := by
  match members with
  | [] =>
    cases read
    exact fun v hmem => absurd hmem List.not_mem_nil
  | (key, tree) :: members =>
    rw [memberValues?] at read
    obtain ⟨name, -, read⟩ := Option.bind_eq_some_iff.mp read
    obtain ⟨first, hfirst, read⟩ := Option.bind_eq_some_iff.mp read
    obtain ⟨rest, hrest, read⟩ := Option.bind_eq_some_iff.mp read
    cases read
    exact List.forall_mem_cons.mpr
      ⟨canonical_of_value? tree hfirst, canonical_of_memberValues? members hrest⟩

end

end AnalysisDesk.Json
