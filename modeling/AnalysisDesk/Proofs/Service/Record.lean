import AnalysisDesk.Proofs.Json.Canonical
import AnalysisDesk.Proofs.Service.Decoding

/-! # What a record holds
The members of a record were read from inside the record, so they are canonical with one container
less around them, whichever form the record has and in whatever order its members come. An analysis
is held by a value in one of two layouts, and its tree was read from deeper inside still. -/

namespace AnalysisDesk.Service

open AnalysisDesk.Json

/-- What a member of a record holds, if it was read, is canonical. -/
def Readable (held : Option Value) : Prop := ∀ v, held = some v → v.Canonical memberDepth

theorem readable_none : Readable none := fun _ h => nomatch h

/-- A value that was read for a member. -/
theorem readable_of_value? {tree : Tree} {v : Value} (read : tree.value? memberDepth = some v) :
    Readable (some v) := by
  intro w same
  exact Option.some.inj same ▸ canonical_of_value? tree read

/-- A member that was null counts as absent, any other one is as it was read. -/
theorem Readable.bind_present {held : Option Value} (h : Readable held) :
    Readable (held.bind present) := by
  intro v found
  obtain ⟨read, held, found⟩ := Option.bind_eq_some_iff.mp found
  unfold present at found
  split at found
  · cases found
  · exact h v (held.trans found)

/-! ## Members and records -/

/-- The members read so far are canonical. -/
structure Members.Readable (members : Members) : Prop where
  data : Service.Readable members.data
  detail : Service.Readable members.detail

/-- What a record holds is canonical. -/
structure Record.Readable (record : Record) : Prop where
  data : Service.Readable record.data
  detail : Service.Readable record.detail

/-- Reading one more member keeps what was read canonical. -/
theorem Members.Readable.add? {members next : Members} (h : members.Readable)
    {member : List Piece × Tree} (added : members.add? member = some next) : next.Readable := by
  unfold Members.add? at added
  obtain ⟨name, -, added⟩ := Option.bind_eq_some_iff.mp added
  split at added
  · split at added
    · cases added
    · obtain ⟨v, read, added⟩ := Option.bind_eq_some_iff.mp added
      cases added
      exact ⟨readable_of_value? read, h.detail⟩
  · split at added
    · split at added
      · cases added
      · obtain ⟨v, read, added⟩ := Option.bind_eq_some_iff.mp added
        cases added
        exact ⟨h.data, readable_of_value? read⟩
    · cases added
      exact h

/-- Reading members one after another keeps what was read canonical. -/
theorem Members.Readable.foldlM {members last : Members} (h : members.Readable)
    {written : List (List Piece × Tree)} (read : written.foldlM Members.add? members = some last) :
    last.Readable := by
  induction written generalizing members with
  | nil =>
    cases read
    exact h
  | cons member written ih =>
    rw [List.foldlM_cons] at read
    obtain ⟨next, added, read⟩ := Option.bind_eq_some_iff.mp read
    exact ih (h.add? added) read

/-- The record of a tree holds canonical values, as an object and as a list. -/
theorem Record.readable_of_ofTree? {tree : Tree} {record : Record}
    (read : Record.ofTree? tree = some record) : record.Readable := by
  unfold Record.ofTree? at read
  split at read
  · obtain ⟨members, folded, rfl⟩ := Option.map_eq_some_iff.mp read
    have empty : Members.Readable ⟨none, none⟩ := ⟨readable_none, readable_none⟩
    have held := empty.foldlM folded
    exact ⟨held.data.bind_present, held.detail.bind_present⟩
  · cases read
    exact ⟨readable_none, readable_none⟩
  · obtain ⟨data, hdata, read⟩ := Option.bind_eq_some_iff.mp read
    cases read
    exact ⟨(readable_of_value? hdata).bind_present, readable_none⟩
  · obtain ⟨data, hdata, read⟩ := Option.bind_eq_some_iff.mp read
    obtain ⟨detail, hdetail, read⟩ := Option.bind_eq_some_iff.mp read
    cases read
    exact ⟨(readable_of_value? hdata).bind_present, (readable_of_value? hdetail).bind_present⟩
  · cases read

/-- **The record of any body** holds canonical values. -/
theorem Record.readable_ofBody (body : String) : (Record.ofBody body).Readable := by
  unfold Record.ofBody
  cases read : Record.read? body with
  | none => exact ⟨readable_none, readable_none⟩
  | some record =>
    obtain ⟨tree, -, read⟩ := Option.bind_eq_some_iff.mp read
    exact readable_of_ofTree? read

/-! ## The analysis in a value -/

/-- What goes on after a result that may fault comes to something if and only if both do. -/
theorem bind_eq_ok_iff {ε α β : Type} {result : Except ε α} {next : α → Except ε β} {b : β} :
    (result >>= next) = .ok b ↔ ∃ a, result = .ok a ∧ next a = .ok b := by
  cases result with
  | error fault => exact iff_of_false nofun fun ⟨_, h, _⟩ => nomatch h
  | ok a => exact ⟨fun h => ⟨a, rfl, h⟩, fun ⟨_, h, h'⟩ => Except.ok.inj h ▸ h'⟩

/-- A token is taken from a text only. -/
theorem eq_text_of_tokenOf {v : Value} {token : String} (taken : tokenOf v = .ok token) :
    v = .text token := by
  unfold tokenOf at taken
  split at taken <;> cases taken
  rfl

/-- **Tokens are taken from a list of texts**, and from nothing else. -/
theorem tokensOf_eq_ok_iff {v : Value} {tokens : List String} :
    tokensOf v = .ok tokens ↔ v = .array (tokens.map .text) := by
  refine ⟨fun taken => ?_, fun same => same ▸ tokensOf_texts tokens⟩
  cases v with
  | array items =>
    have each : items.mapM tokenOf = (.ok tokens : Except Mismatch (List String)) := taken
    refine congrArg Value.array ?_
    clear taken
    induction items generalizing tokens with
    | nil =>
      cases each
      rfl
    | cons item items ih =>
      rw [List.mapM_cons] at each
      obtain ⟨token, first, each⟩ := bind_eq_ok_iff.mp each
      obtain ⟨rest, more, each⟩ := bind_eq_ok_iff.mp each
      cases each
      rw [eq_text_of_tokenOf first, ih more, List.map_cons]
  | null | bool | number | text | object => cases taken

/-- **A value holds an analysis**: it is an object with the tokens and the tree among its members, or
a list of just the two. -/
inductive Analysis.HeldBy (analysis : Analysis) : Value → Prop
  | object {members : List (String × Value)}
      (tokens : ("tokens", Value.array (analysis.tokens.map .text)) ∈ members)
      (tree : ("ast", analysis.tree) ∈ members) : HeldBy analysis (.object members)
  | list : HeldBy analysis (.array [.array (analysis.tokens.map .text), analysis.tree])

/-- An analysis is taken from a value that holds it. -/
theorem Analysis.heldBy_of_ofValue {data : Value} {analysis : Analysis}
    (taken : Analysis.ofValue data = .ok analysis) : analysis.HeldBy data := by
  unfold Analysis.ofValue at taken
  split at taken
  · split at taken
    · cases taken
    · rename_i found
      obtain ⟨tokens, texts, taken⟩ := bind_eq_ok_iff.mp taken
      split at taken
      · cases taken
      · rename_i also
        cases taken
        rw [tokensOf_eq_ok_iff.mp texts] at found
        exact .object (mem_of_findMember found) (mem_of_findMember also)
  · cases taken
  -- A list of one or of more than two has faults of its own.
  · obtain ⟨tokens, -, taken⟩ := bind_eq_ok_iff.mp taken
    cases taken
  · obtain ⟨tokens, texts, taken⟩ := bind_eq_ok_iff.mp taken
    cases taken
    rw [tokensOf_eq_ok_iff.mp texts]
    exact .list
  · obtain ⟨tokens, -, taken⟩ := bind_eq_ok_iff.mp taken
    cases taken
  · cases taken

/-- **An analysis is taken from a canonical value** if and only if the value holds it. -/
theorem Analysis.ofValue_eq_ok_iff {depth : Nat} {data : Value} (canonical : data.Canonical depth)
    {analysis : Analysis} : Analysis.ofValue data = .ok analysis ↔ analysis.HeldBy data := by
  refine ⟨heldBy_of_ofValue, fun held => ?_⟩
  cases held with
  | object tokens tree =>
    cases canonical with
    | object ordered each =>
      have distinct := ordered.imp ne_of_lt
      have tokens := findMember_of_mem distinct tokens
      have tree := findMember_of_mem distinct tree
      simp only [Analysis.ofValue, tokens, tree, tokensOf_texts]
      rfl
  | list =>
    simp only [Analysis.ofValue, tokensOf_texts]
    rfl

/-! ## The tree of an analysis -/

/-- The tree of an analysis lies one container deeper than the value it was taken from. -/
theorem Analysis.canonical_tree {depth : Nat} {data : Value} (canonical : data.Canonical depth)
    {analysis : Analysis} (taken : Analysis.ofValue data = .ok analysis) :
    analysis.tree.Canonical (depth - 1) := by
  cases heldBy_of_ofValue taken with
  | object _ tree =>
    cases canonical with
    | object _ each => exact each _ tree
  | list =>
    cases canonical with
    | array each => exact each _ (List.mem_cons_of_mem _ List.mem_cons_self)

/-- An analysis that a reply comes to was taken from what its record holds. -/
theorem Reply.data_of_success {reply : Reply} {analysis : Analysis}
    (outcome : reply.outcome = .ok (.success analysis)) :
    ∃ data, (Record.ofBody reply.body).data = some data ∧
      Analysis.ofValue data = .ok analysis := by
  unfold Reply.outcome at outcome
  simp only at outcome
  split at outcome
  · rename_i data found
    split at outcome
    · rename_i taken
      cases outcome
      exact ⟨data, found, taken⟩
    · cases outcome
  · split at outcome
    · cases outcome
    · split at outcome <;> cases outcome

/-- **The tree of an analysis** that a reply comes to was read two containers deep. -/
theorem Reply.canonical_tree {reply : Reply} {analysis : Analysis}
    (outcome : reply.outcome = .ok (.success analysis)) :
    analysis.tree.Canonical (memberDepth - 1) := by
  obtain ⟨data, found, taken⟩ := data_of_success outcome
  exact Analysis.canonical_tree ((Record.readable_ofBody reply.body).data data found) taken

end AnalysisDesk.Service
