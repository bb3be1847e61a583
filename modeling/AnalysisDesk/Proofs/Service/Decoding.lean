import AnalysisDesk.Proofs.Json.Sorted
import AnalysisDesk.Service.Reply

/-! # Decoding a reply
A reply whose body is the text of a record, in either layout and with its members in any order, comes
to what the record says: an analysis if there is one, else the complaint. A list of the two stands for
the record with these members. -/

namespace AnalysisDesk.Service

open AnalysisDesk.Json

/-! ## Members of plain, shallow objects -/

theorem plain_of_findMember {key : String} {members : List (String × Value)}
    (plain : PlainMembers members) {v : Value} (found : findMember key members = some v) :
    v.Plain := by
  induction members with
  | nil => cases found
  | cons member members ih =>
    obtain ⟨other, value⟩ := member
    simp only [PlainMembers] at plain
    rw [findMember] at found
    split at found
    · cases found
      exact plain.1
    · exact ih plain.2 found

theorem depth_of_findMember {key : String} {members : List (String × Value)} {v : Value}
    (found : findMember key members = some v) : v.depth ≤ membersDepth members := by
  induction members with
  | nil => cases found
  | cons member members ih =>
    obtain ⟨other, value⟩ := member
    simp only [membersDepth]
    rw [findMember] at found
    split at found
    · cases found
      exact le_max_left _ _
    · exact le_trans (ih found) (le_max_right _ _)

/-! ## The record of an object -/

/-- The record of the members of an object. -/
def recordOf (members : List (String × Value)) : Record where
  data := (findMember "data" members).bind fun v => present v.sorted
  detail := (findMember "detail" members).bind fun v => present v.sorted

/-- The sorted value of a member if it has a certain key. -/
def ifKey (name : String) (key : String) (value : Value) : Option Value :=
  if key = name then some value.sorted else none

/-- A member is kept if its key is one of the two that count; neither may come twice. -/
theorem add?_tree {key : String} {value : Value} (plain : value.Plain)
    (shallow : value.depth ≤ memberDepth) {held : Members}
    (data : held.data.isSome → key ≠ "data") (detail : held.detail.isSome → key ≠ "detail") :
    held.add? (piecesOf key, value.tree) =
      some ⟨held.data.or (ifKey "data" key value), held.detail.or (ifKey "detail" key value)⟩ := by
  have read := value?_tree value plain shallow
  unfold Members.add? ifKey
  simp only [decodeText?_piecesOf, read]
  -- The two keys are told apart; every other one is passed over.
  by_cases isData : key = "data"
  · have none : held.data = none := Option.isNone_iff_eq_none.mp
      (by simpa using fun h => data h isData)
    have other : key ≠ "detail" := by
      rw [isData]
      decide
    simp [isData, none]
  · by_cases isDetail : key = "detail"
    · have none : held.detail = none := Option.isNone_iff_eq_none.mp
        (by simpa using fun h => detail h isDetail)
      simp [isDetail, none]
    · simp [isData, isDetail]

/-- What is held after a member, and then found among the members after it. -/
theorem or_ifKey {name key : String} {value : Value} {members : List (String × Value)}
    (new : key ∉ keys members) (held : Option Value) :
    (held.or (ifKey name key value)).or ((findMember name members).map Value.sorted) =
      held.or ((findMember name ((key, value) :: members)).map Value.sorted) := by
  rw [findMember, ifKey, Option.or_assoc]
  by_cases same : key = name
  · have absent : findMember name members = none :=
      (findMember_eq_none_iff name members).mpr (same ▸ new)
    rw [if_pos same, if_pos same, absent]
    rfl
  · rw [if_neg same, if_neg same, Option.none_or]

/-- **Reading members one after another** finds the two that count, whatever the order. -/
theorem foldlM_add?_memberTrees {members : List (String × Value)} (plain : PlainMembers members)
    (shallow : membersDepth members ≤ memberDepth) (distinct : (keys members).Nodup)
    (held : Members) (data : held.data.isSome → "data" ∉ keys members)
    (detail : held.detail.isSome → "detail" ∉ keys members) :
    (memberTrees members).foldlM Members.add? held =
      some ⟨held.data.or ((findMember "data" members).map Value.sorted),
        held.detail.or ((findMember "detail" members).map Value.sorted)⟩ := by
  induction members generalizing held with
  | nil =>
    simp only [findMember, Option.map_none, Option.or_none]
    rfl
  | cons member members ih =>
    obtain ⟨key, value⟩ := member
    simp only [PlainMembers] at plain
    simp only [membersDepth] at shallow
    obtain ⟨new, distinct⟩ := List.nodup_cons.mp distinct
    have first := add?_tree plain.1 (le_trans (le_max_left _ _) shallow)
      (fun h same => data h (same ▸ List.mem_cons_self))
      (fun h same => detail h (same ▸ List.mem_cons_self))
    -- A key that is held already or was just read is not among those that follow.
    have later {name : String} {kept : Option Value}
        (h : kept.isSome → name ∉ keys ((key, value) :: members))
        (some : (kept.or (ifKey name key value)).isSome) : name ∉ keys members := by
      intro hmem
      by_cases same : key = name
      · exact new (same ▸ hmem)
      · rw [ifKey, if_neg same, Option.or_none] at some
        exact h some (List.mem_cons_of_mem _ hmem)
    have rest := ih plain.2 (le_trans (le_max_right _ _) shallow) distinct
      ⟨held.data.or (ifKey "data" key value), held.detail.or (ifKey "detail" key value)⟩
      (later data) (later detail)
    rw [or_ifKey new, or_ifKey new] at rest
    rw [memberTrees, List.foldlM_cons, first]
    exact rest

/-- **The record of an object's text** has the two members that count. -/
theorem ofBody_object {members : List (String × Value)} (plain : PlainMembers members)
    (shallow : membersDepth members ≤ memberDepth) (distinct : (keys members).Nodup) {body : String}
    (written : Written (.object members) body) : Record.ofBody body = recordOf members := by
  have tree := written.tree (by simpa only [Value.Plain] using plain)
  have read := foldlM_add?_memberTrees plain shallow distinct ⟨none, none⟩
    (fun h => nomatch h) (fun h => nomatch h)
  unfold Record.ofBody Record.read?
  rw [tree]
  change ((Record.ofTree? (.object (memberTrees members)))).getD _ = _
  rw [Record.ofTree?, read]
  simp only [Option.none_or, Option.map_some, Option.getD_some, Members.record, recordOf,
    Option.bind_map]
  rfl

/-! ## The record of a list -/

/-- A list stands for an object: it has the analysis, and the complaint unless the object has
none. -/
inductive Lists (members : List (String × Value)) : Value → Prop
  | data {data : Value} (found : findMember "data" members = some data)
      (absent : findMember "detail" members = none) : Lists members (.array [data])
  | both {data detail : Value} (found : findMember "data" members = some data)
      (also : findMember "detail" members = some detail) : Lists members (.array [data, detail])

/-- **The record of a list's text** is that of the object it stands for. -/
theorem ofBody_list {members : List (String × Value)} (plain : PlainMembers members)
    (shallow : membersDepth members ≤ memberDepth) {list : Value} (lists : Lists members list)
    {body : String} (written : Written list body) : Record.ofBody body = recordOf members := by
  have read {key : String} {v : Value} (found : findMember key members = some v) :
      v.tree.value? memberDepth = some v.sorted :=
    value?_tree v (plain_of_findMember plain found) (le_trans (depth_of_findMember found) shallow)
  unfold Record.ofBody Record.read?
  cases lists with
  | @data data found absent =>
    have plainList : (Value.array [data]).Plain := by
      simp only [Value.Plain, PlainItems, and_true]
      exact plain_of_findMember plain found
    rw [written.tree plainList]
    change (Record.ofTree? (.array [data.tree])).getD _ = _
    simp only [Record.ofTree?, read found, recordOf, found, absent, Option.bind_some,
      Option.bind_none]
    rfl
  | @both data detail found also =>
    have plainList : (Value.array [data, detail]).Plain := by
      simp only [Value.Plain, PlainItems, and_true]
      exact ⟨plain_of_findMember plain found, plain_of_findMember plain also⟩
    rw [written.tree plainList]
    change (Record.ofTree? (.array [data.tree, detail.tree])).getD _ = _
    simp only [Record.ofTree?, read found, read also, recordOf, found, also, Option.bind_some]
    rfl

/-! ## The analysis in a value -/

/-- A value carries an analysis, as an object with the two members or as a list of the two. -/
inductive Carries (analysis : Analysis) : Value → Prop
  | object {members : List (String × Value)} (distinct : (keys members).Nodup)
      (tokens : findMember "tokens" members = some (.array (analysis.tokens.map .text)))
      {tree : Value} (ast : findMember "ast" members = some tree)
      (same : tree.sorted = analysis.tree) : Carries analysis (.object members)
  | list {tree : Value} (same : tree.sorted = analysis.tree) :
      Carries analysis (.array [.array (analysis.tokens.map .text), tree])

/-- Texts are tokens. -/
theorem tokensOf_texts (tokens : List String) :
    tokensOf (.array (tokens.map .text)) = .ok tokens := by
  have each :
      (tokens.map Value.text).mapM tokenOf = (.ok tokens : Except Mismatch (List String)) := by
    induction tokens with
    | nil => rfl
    | cons token tokens ih =>
      rw [List.map_cons, List.mapM_cons, ih]
      rfl
  exact each

theorem sorted_texts (texts : List String) :
    (Value.array (texts.map .text)).sorted = .array (texts.map .text) := by
  rw [Value.sorted, sortedItems_texts]

/-- **The analysis that a value carries** is found in the sorted value. -/
theorem Carries.ofValue_sorted {analysis : Analysis} {data : Value}
    (carries : Carries analysis data) : Analysis.ofValue data.sorted = .ok analysis := by
  cases carries with
  | object distinct tokens ast same =>
    have tokens' := findMember_orderMembers_sortedMembers "tokens" distinct
    have ast' := findMember_orderMembers_sortedMembers "ast" distinct
    rw [tokens, Option.map_some, sorted_texts] at tokens'
    rw [ast, Option.map_some, same] at ast'
    simp only [Value.sorted, Analysis.ofValue, tokens', ast', tokensOf_texts]
    rfl
  | list same =>
    simp only [Value.sorted, sortedItems, sortedItems_texts, Analysis.ofValue, tokensOf_texts, same]
    rfl

/-! ## The outcome of a reply -/

/-- Sorting makes no value null. -/
theorem present_sorted {v : Value} (h : v ≠ .null) : present v.sorted = some v.sorted := by
  cases v with
  | null => exact absurd rfl h
  | _ => simp only [Value.sorted, present]

/-- The text of a complaint: a string as it is, any other value in compact layout. -/
def detailText : Value → String
  | .text s => s
  | v => v.sorted.toCompact

theorem complaintText_sorted (v : Value) : complaintText v.sorted = detailText v := by
  cases v with
  | _ => simp only [Value.sorted, complaintText, detailText]

/-- A member does not count if and only if it is absent or null. -/
theorem bind_present_sorted_eq_none_iff (found : Option Value) :
    (found.bind fun v => present v.sorted) = none ↔ found.getD .null = .null := by
  cases found with
  | none => exact iff_of_true rfl rfl
  | some v =>
    rw [Option.bind_some, Option.getD_some]
    constructor
    · intro h
      by_contra nonnull
      rw [present_sorted nonnull] at h
      cases h
    · rintro rfl
      rfl

/-- The outcome of a reply with an analysis. -/
theorem outcome_of_data {reply : Reply} {v : Value} {analysis : Analysis}
    (data : (Record.ofBody reply.body).data = some v)
    (carried : Analysis.ofValue v = .ok analysis) : reply.outcome = .ok (.success analysis) := by
  simp only [Reply.outcome, data, carried]

/-- The outcome of a reply with a complaint only. -/
theorem outcome_of_detail {reply : Reply} {v : Value}
    (data : (Record.ofBody reply.body).data = none)
    (detail : (Record.ofBody reply.body).detail = some v) :
    reply.outcome = .ok (.failure (complaintText v)) := by
  simp only [Reply.outcome, data, detail]

/-- The outcome of a reply with neither, and not of success. -/
theorem outcome_of_neither {reply : Reply} (data : (Record.ofBody reply.body).data = none)
    (detail : (Record.ofBody reply.body).detail = none) (failed : reply.isSuccess = false) :
    reply.outcome = .ok (.failure reply.statusText) := by
  simp only [Reply.outcome, data, detail, failed, Bool.false_eq_true, if_false]

/-- Replies of one status with the same record come to the same, unless the status alone decides. -/
theorem outcome_congr {status : Nat} {body body' : String}
    (same : Record.ofBody body' = Record.ofBody body)
    (decided : (Record.ofBody body).data = none → (Record.ofBody body).detail = none →
      (⟨status, body⟩ : Reply).isSuccess = true) :
    (⟨status, body'⟩ : Reply).outcome = (⟨status, body⟩ : Reply).outcome := by
  unfold Reply.outcome
  simp only [same]
  cases data : (Record.ofBody body).data with
  | some v => rfl
  | none =>
    cases detail : (Record.ofBody body).detail with
    | some v => rfl
    | none =>
      have success := decided data detail
      have success' : (⟨status, body'⟩ : Reply).isSuccess = true := success
      simp only [success, success', if_true]

/-- **What a reply comes to** whose body is an object's text, or that of a list in its stead. -/
structure Decodes (members : List (String × Value)) (status : Nat) (body : String) : Prop where
  /-- An analysis is a success, whatever the status, the other members and the complaint. -/
  success : ∀ {analysis data}, findMember "data" members = some data → Carries analysis data →
    (⟨status, body⟩ : Reply).outcome = .ok (.success analysis)
  /-- Without an analysis, a complaint is a failure with its text. -/
  failure : ∀ {detail}, (findMember "data" members).getD .null = .null →
    findMember "detail" members = some detail → detail ≠ .null →
    (⟨status, body⟩ : Reply).outcome = .ok (.failure (detailText detail))
  /-- A list comes to the same if it says anything or the status is one of success. -/
  list : ∀ {list text}, Lists members list → Written list text →
    (findMember "data" members).getD .null ≠ .null ∨
      (findMember "detail" members).getD .null ≠ .null ∨ (200 ≤ status ∧ status < 300) →
    (⟨status, text⟩ : Reply).outcome = (⟨status, body⟩ : Reply).outcome
  /-- A list and an object that say nothing come to a failure with their own text in it. -/
  neither : ∀ {list text}, Lists members list → Written list text ∨ text = body →
    (findMember "data" members).getD .null = .null →
    (findMember "detail" members).getD .null = .null → ¬ (200 ≤ status ∧ status < 300) →
    (⟨status, text⟩ : Reply).outcome = .ok (.failure (Reply.statusText ⟨status, text⟩))

/-- **Decoding undoes encoding** over the whole format of replies. -/
theorem decodes_of_written {members : List (String × Value)} (plain : (Value.object members).Plain)
    (shallow : (Value.object members).depth ≤ depthLimit) (distinct : (keys members).Nodup)
    {body : String} (written : Written (.object members) body) (status : Nat) :
    Decodes members status body := by
  simp only [Value.Plain] at plain
  have inner : membersDepth members ≤ memberDepth := Nat.le_sub_one_of_lt shallow
  have record := ofBody_object plain inner distinct written
  have listed {list : Value} (lists : Lists members list) {text : String}
      (h : Written list text) : Record.ofBody text = recordOf members :=
    ofBody_list plain inner lists h
  refine ⟨?_, ?_, ?_, ?_⟩
  · -- An analysis is never null, so it is the one member that counts.
    intro analysis data found carries
    have nonnull : data ≠ .null := by
      rintro rfl
      cases carries
    refine outcome_of_data (v := data.sorted) ?_ carries.ofValue_sorted
    rw [record, recordOf, found]
    exact present_sorted nonnull
  · intro detail absent found nonnull
    rw [← complaintText_sorted]
    refine outcome_of_detail ?_ ?_
    · rw [record]
      exact (bind_present_sorted_eq_none_iff _).mpr absent
    · rw [record, recordOf, found]
      exact present_sorted nonnull
  · intro list text lists h decided
    refine outcome_congr ((listed lists h).trans record.symm) fun noData noDetail => ?_
    rw [record] at noData noDetail
    have dataNull := (bind_present_sorted_eq_none_iff _).mp noData
    have detailNull := (bind_present_sorted_eq_none_iff _).mp noDetail
    rcases decided with data | detail | success
    · exact absurd dataNull data
    · exact absurd detailNull detail
    · simpa [Reply.isSuccess] using success
  · intro list text lists h noData noDetail failed
    have same : Record.ofBody text = recordOf members := by
      rcases h with h | rfl
      · exact listed lists h
      · exact record
    refine outcome_of_neither ?_ ?_ ?_
    · rw [same]
      exact (bind_present_sorted_eq_none_iff _).mpr noData
    · rw [same]
      exact (bind_present_sorted_eq_none_iff _).mpr noDetail
    · simpa [Reply.isSuccess] using failed

/-- A body with members in no order, one of them passed over, and an analysis with an escape. -/
def mixedMembers : List (String × Value) :=
  [("extra", .array [.number (.whole (-3)), .bool true]),
   ("detail", .object [("msg", .null), ("loc", .array [])]),
   ("data", .object
     [("tokens", .array [.text "a\x01\n"]), ("ast", .object [("b", .null), ("a", .null)])])]

theorem mixedMembers_success :
    (⟨503, (Value.object mixedMembers).toIndented⟩ : Reply).outcome =
      .ok (.success ⟨["a\x01\n"], .object [("a", .null), ("b", .null)]⟩) := by
  have plain : (Value.object mixedMembers).Plain := by
    simp [mixedMembers, Value.Plain, PlainMembers, PlainItems]
  have decodes := decodes_of_written plain (by decide) (by decide) (.inr rfl) 503
  exact decodes.success rfl (.object (by decide) rfl rfl rfl)

/-- A list that says nothing does not come to the same as its object: the text of a failure quotes
the body. -/
theorem list_of_null_differs :
    ¬ ∀ (status : Nat) (data : Value) (body text : String),
      Written (.object [("data", data)]) body → Written (.array [data]) text →
        (⟨status, text⟩ : Reply).outcome = (⟨status, body⟩ : Reply).outcome := by
  intro same
  have equal := same 500 .null _ _ (.inl rfl) (.inl rfl)
  have ofObject : (⟨500, (Value.object [("data", .null)]).toCompact⟩ : Reply).outcome =
      .ok (.failure "HTTP 500: \x7b\"data\":null\x7d") := rfl
  have ofList : (⟨500, (Value.array [.null]).toCompact⟩ : Reply).outcome =
      .ok (.failure "HTTP 500: [null]") := rfl
  rw [ofObject, ofList] at equal
  injection equal with equal
  injection equal with equal
  exact absurd equal (by decide)

end AnalysisDesk.Service
