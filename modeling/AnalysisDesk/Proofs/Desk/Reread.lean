import AnalysisDesk.Proofs.Desk.Display
import AnalysisDesk.Proofs.Service.Decoding
import AnalysisDesk.Proofs.Service.Record

/-! # Reading what is on display
The viewers and the banner show values as texts. Each text is read back to just the value it shows,
so that a look at the desk tells what the service said: two answers that differ never show the same
texts. No value that a reply can hold is nested too deep for that, because it was read from inside a
record. -/

namespace AnalysisDesk.Service

open AnalysisDesk.Json

/-! ## Answers -/

/-- What the service says to a source. -/
inductive Answer
  | success (analysis : Analysis)
  /-- A complaint that is a value, and not a text already. -/
  | complaint (detail : Value)

/-- What an answer comes to. -/
def Answer.outcome : Answer → Outcome
  | .success analysis => .success analysis
  | .complaint detail => .failure (complaintText detail)

/-- No number in the values of an answer is binary. -/
def Answer.Integral : Answer → Prop
  | .success analysis => analysis.tree.Integral
  | .complaint detail => detail.Integral

/-- **A reply gives an answer**: it is taken for an analysis, or its body has no analysis but a
complaint other than a string. -/
inductive Reply.Gives (reply : Reply) : Answer → Prop
  | success {analysis : Analysis} (taken : reply.outcome = .ok (.success analysis)) :
      Gives reply (.success analysis)
  | complaint {detail : Value} (data : (Record.ofBody reply.body).data = none)
      (held : (Record.ofBody reply.body).detail = some detail) (other : ∀ s, detail ≠ .text s) :
      Gives reply (.complaint detail)

/-- A reply comes to the answer that it gives. -/
theorem Reply.Gives.outcome_eq {reply : Reply} {answer : Answer} (gives : reply.Gives answer) :
    reply.outcome = .ok answer.outcome := by
  cases gives with
  | success taken => exact taken
  | complaint data held => exact outcome_of_detail data held

/-- The text of a complaint that is no string is its compact layout. -/
theorem written_complaintText {detail : Value} (other : ∀ s, detail ≠ .text s) :
    Written detail (complaintText detail) := by
  cases detail with
  | text s => exact absurd rfl (other s)
  | _ => exact .inl rfl

/-- Texts are a canonical array. -/
theorem canonical_texts (texts : List String) : (Value.array (texts.map .text)).Canonical 1 := by
  refine .array fun item hmem => ?_
  obtain ⟨s, -, rfl⟩ := List.mem_map.mp hmem
  exact .text 0 s

theorem integral_texts (texts : List String) : (Value.array (texts.map .text)).Integral := by
  simp only [Value.Integral]
  induction texts with
  | nil => trivial
  | cons text texts ih => exact ⟨trivial, ih⟩

end AnalysisDesk.Service

namespace AnalysisDesk.Desk

open AnalysisDesk.Json
open AnalysisDesk.Service (Analysis Answer Reply Record)

/-! ## Texts on display -/

/-- The text of a viewer is read as a value. -/
def Viewer.ReadsAs (v : Viewer) (value : Value) : Prop :=
  Value.read? (String.ofList v.text) = some value

namespace State

/-- The texts on display: those of the two viewers, and the complaint. -/
def texts (s : State) : List Char × List Char × Option String :=
  (s.tokens.text, s.tree.text, s.complaint)

/-- **The texts on display are read as an answer**: the viewers as the tokens and the tree of an
analysis, with no complaint, or else the complaint as a value. -/
def ReadsAs (s : State) : Answer → Prop
  | .success analysis =>
    s.complaint = none ∧ s.tokens.ReadsAs (.array (analysis.tokens.map .text)) ∧
      s.tree.ReadsAs analysis.tree
  | .complaint detail => ∃ text, s.complaint = some text ∧ Value.read? text = some detail

/-- The same texts are not read as two answers. -/
theorem ReadsAs.unique {s s' : State} (same : s.texts = s'.texts) {answer answer' : Answer}
    (h : s.ReadsAs answer) (h' : s'.ReadsAs answer') : answer = answer' := by
  simp only [texts, Prod.mk.injEq] at same
  obtain ⟨tokensSame, treeSame, complaintSame⟩ := same
  cases answer with
  | success analysis =>
    obtain ⟨complaint, tokens, tree⟩ := h
    cases answer' with
    | success analysis' =>
      obtain ⟨-, tokens', tree'⟩ := h'
      -- Both viewers are read as one value each, so the two parts agree.
      rw [Viewer.ReadsAs, tokensSame, tokens'] at tokens
      rw [Viewer.ReadsAs, treeSame, tree'] at tree
      obtain ⟨analysisTokens, analysisTree⟩ := analysis
      have sameTokens : analysis'.tokens = analysisTokens :=
        List.map_injective_iff.mpr (fun _ _ h => Value.text.inj h)
          (Value.array.inj (Option.some.inj tokens))
      have sameTree : analysis'.tree = analysisTree := Option.some.inj tree
      rw [← sameTokens, ← sameTree]
    | complaint detail' =>
      obtain ⟨text, shown, -⟩ := h'
      rw [complaintSame, shown] at complaint
      cases complaint
  | complaint detail =>
    obtain ⟨text, shown, read⟩ := h
    cases answer' with
    | success analysis' =>
      rw [complaintSame, h'.1] at shown
      cases shown
    | complaint detail' =>
      obtain ⟨text', shown', read'⟩ := h'
      have sameText : text = text' :=
        Option.some.inj (shown.symm.trans (complaintSame.trans shown'))
      rw [sameText, read'] at read
      exact congrArg Answer.complaint (Option.some.inj read).symm

/-- A viewer that presents a canonical value without binary numbers is read as that value. -/
theorem readsAs_present {depth : Nat} {value : Value} (canonical : value.Canonical depth)
    (shallow : depth ≤ depthLimit) (integral : value.Integral) (v : Viewer) :
    (v.present value).ReadsAs value :=
  canonical.read?_of_written shallow integral (.inr rfl)

/-- **The answer of a reply on display** is read back from the texts. -/
theorem readsAs_of_gives {reply : Reply} {answer : Answer} (gives : reply.Gives answer)
    (integral : answer.Integral) (s : State) : (s.display answer.outcome).ReadsAs answer := by
  cases gives with
  | @success analysis taken =>
    refine ⟨rfl, ?_, ?_⟩
    · exact readsAs_present (Service.canonical_texts analysis.tokens) (by decide)
        (Service.integral_texts analysis.tokens) s.tokens
    · exact readsAs_present (Reply.canonical_tree taken) (by decide) integral s.tree
  | @complaint detail data held other =>
    have canonical := (Record.readable_ofBody reply.body).detail detail held
    exact ⟨Service.complaintText detail, rfl,
      canonical.read?_of_written (by decide) integral (Service.written_complaintText other)⟩

/-- **What the desk shows is the answer**, and nothing of it is lost: whatever was on display
before, the texts are read back as just the answer of the reply, and no other answer of any reply
shows the same texts. -/
theorem display_readsAs {reply : Reply} {answer : Answer} (gives : reply.Gives answer)
    (integral : answer.Integral) (s : State) :
    reply.outcome = .ok answer.outcome ∧ (s.display answer.outcome).ReadsAs answer ∧
      ∀ {reply' : Reply} {answer' : Answer}, reply'.Gives answer' → answer'.Integral →
        ∀ s' : State, (s.display answer.outcome).texts = (s'.display answer'.outcome).texts →
          answer = answer' := by
  have read := readsAs_of_gives gives integral s
  refine ⟨gives.outcome_eq, read, fun gives' integral' s' same => ?_⟩
  exact read.unique same (readsAs_of_gives gives' integral' s')

/-- A complaint as the service writes it, with the keys of an object out of order. -/
def validationMembers : List (String × Value) :=
  [("detail", .array
    [.object [("msg", .text "a\x01"), ("at", .array [.number (.whole (-3)), .null])]])]

/-- The complaint as it is read. -/
def validationDetail : Value :=
  .array [.object [("at", .array [.number (.whole (-3)), .null]), ("msg", .text "a\x01")]]

theorem validationDetail_shown :
    ((opening [] none).display (.failure validationDetail.toCompact)).ReadsAs
      (.complaint validationDetail) := by
  have plain : PlainMembers validationMembers := by
    simp [validationMembers, Value.Plain, PlainMembers, PlainItems]
  have record := Service.ofBody_object plain (by decide) (by decide) (.inr rfl)
  have gives : (⟨422, (Value.object validationMembers).toIndented⟩ : Reply).Gives
      (.complaint validationDetail) := .complaint (by rw [record]; rfl) (by rw [record]; rfl) nofun
  have integral : (Answer.complaint validationDetail).Integral := by
    simp [Answer.Integral, validationDetail, Value.Integral, IntegralItems, IntegralMembers]
  exact (display_readsAs gives integral (opening [] none)).2.1

end State
end AnalysisDesk.Desk
