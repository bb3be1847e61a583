import AnalysisDesk.Proofs.Json.Spelling

/-! # Syntax of printed values
The text of a value, in either layout, is cut into the tokens of the value, and the tokens are built
into its tree. A value is plain if its numbers are whole and fit in 64 bits; other numbers are not
treated here. -/

namespace AnalysisDesk.Json

/-! ## Plain values -/

mutual

/-- All numbers of a value are whole and fit in 64 bits, with a sign or without. -/
def Value.Plain : Value → Prop
  | .null => True
  | .bool _ => True
  | .number (.whole n) => -2 ^ 63 ≤ n ∧ n < 2 ^ 64
  | .number (.binary _) => False
  | .text _ => True
  | .array items => PlainItems items
  | .object members => PlainMembers members

/-- All items are plain. -/
def PlainItems : List Value → Prop
  | [] => True
  | item :: items => item.Plain ∧ PlainItems items

/-- The values of all members are plain. -/
def PlainMembers : List (String × Value) → Prop
  | [] => True
  | (_, value) :: members => value.Plain ∧ PlainMembers members

end

/-! ## Tokens -/

/-- How the text of a number is read. -/
def Numeral.written (n : Numeral) : WrittenNumber :=
  (WrittenNumber.read? n.write).getD ⟨false, [], none, none⟩

theorem written_whole (n : Int) : (Numeral.whole n).written = writtenWhole n := by
  unfold Numeral.written
  exact congrArg (Option.getD · _) (WrittenNumber.read?_signedDigits n)

mutual

/-- The tokens of a value. -/
def Value.tokens : Value → List Token
  | .null => [.null]
  | .bool b => [.bool b]
  | .number n => [.number n.written]
  | .text s => [.text (piecesOf s)]
  | .array [] => [.openArray, .closeArray]
  | .array (item :: items) => .openArray :: (item.tokens ++ itemTokens items)
  | .object [] => [.openObject, .closeObject]
  | .object ((key, value) :: members) =>
    .openObject :: .text (piecesOf key) :: .colon :: (value.tokens ++ memberTokens members)

/-- The items after the first, each after a comma, and the end of the array. -/
def itemTokens : List Value → List Token
  | [] => [.closeArray]
  | item :: items => .comma :: (item.tokens ++ itemTokens items)

/-- The members after the first, each after a comma, and the end of the object. -/
def memberTokens : List (String × Value) → List Token
  | [] => [.closeObject]
  | (key, value) :: members =>
    .comma :: .text (piecesOf key) :: .colon :: (value.tokens ++ memberTokens members)

end

/-- The number of a plain value is one token. -/
theorem lexes_number {n : Numeral} (plain : (Value.number n).Plain) {text : List Char}
    {tokens : List Token} (stops : Stops text) (rest : Lexes .between text tokens) :
    Lexes .between (n.write ++ text) (.number n.written :: tokens) := by
  cases n with
  | binary x => exact absurd plain (by simp [Value.Plain])
  | whole n =>
    rw [written_whole]
    exact Lexes.signedDigits n stops rest

/-! ## Compact layout -/

theorem stops_compactItems (items : List Value) (text : List Char) :
    Stops (compactItems items ++ text) := by
  cases items <;> exact stops_cons _ rfl rfl

theorem stops_compactMembers (members : List (String × Value)) (text : List Char) :
    Stops (compactMembers members ++ text) := by
  rcases members with _ | ⟨⟨key, value⟩, members⟩ <;> exact stops_cons _ rfl rfl

mutual

/-- **The compact layout** is cut into the tokens of the value. -/
theorem lexes_compact (v : Value) (plain : v.Plain) {text : List Char} {tokens : List Token}
    (stops : Stops text) (rest : Lexes .between text tokens) :
    Lexes .between (v.compact ++ text) (v.tokens ++ tokens) := by
  match v with
  | .null => exact Lexes.nullWord stops rest
  | .bool b => exact Lexes.boolWord b stops rest
  | .number n => exact lexes_number plain stops rest
  | .text s => exact Lexes.textLiteral s rest
  | .array [] => exact Lexes.openArray (Lexes.closeArray rest)
  | .array (item :: items) =>
    simp only [Value.Plain, PlainItems] at plain
    simp only [Value.compact, Value.tokens, List.cons_append, List.append_assoc]
    refine Lexes.openArray (lexes_compact item plain.1 (stops_compactItems items text) ?_)
    exact lexes_compactItems items plain.2 rest
  | .object [] => exact Lexes.openObject (Lexes.closeObject rest)
  | .object ((key, value) :: members) =>
    simp only [Value.Plain, PlainMembers] at plain
    simp only [Value.compact, Value.tokens, List.cons_append, List.append_assoc]
    refine Lexes.openObject (Lexes.textLiteral key (Lexes.colon ?_))
    refine lexes_compact value plain.1 (stops_compactMembers members text) ?_
    exact lexes_compactMembers members plain.2 rest

theorem lexes_compactItems (items : List Value) (plain : PlainItems items) {text : List Char}
    {tokens : List Token} (rest : Lexes .between text tokens) :
    Lexes .between (compactItems items ++ text) (itemTokens items ++ tokens) := by
  match items with
  | [] => exact Lexes.closeArray rest
  | item :: items =>
    simp only [PlainItems] at plain
    simp only [compactItems, itemTokens, List.cons_append, List.append_assoc]
    refine Lexes.comma (lexes_compact item plain.1 (stops_compactItems items text) ?_)
    exact lexes_compactItems items plain.2 rest

theorem lexes_compactMembers (members : List (String × Value)) (plain : PlainMembers members)
    {text : List Char} {tokens : List Token} (rest : Lexes .between text tokens) :
    Lexes .between (compactMembers members ++ text) (memberTokens members ++ tokens) := by
  match members with
  | [] => exact Lexes.closeObject rest
  | (key, value) :: members =>
    simp only [PlainMembers] at plain
    simp only [compactMembers, memberTokens, List.cons_append, List.append_assoc]
    refine Lexes.comma (Lexes.textLiteral key (Lexes.colon ?_))
    refine lexes_compact value plain.1 (stops_compactMembers members text) ?_
    exact lexes_compactMembers members plain.2 rest

end

/-! ## Indented layout -/

theorem stops_indentedItems (depth : Nat) (items : List Value) (text : List Char) :
    Stops (indentedItems depth items ++ text) := by
  cases items <;> exact stops_cons _ rfl rfl

theorem stops_indentedMembers (depth : Nat) (members : List (String × Value)) (text : List Char) :
    Stops (indentedMembers depth members ++ text) := by
  rcases members with _ | ⟨⟨key, value⟩, members⟩ <;> exact stops_cons _ rfl rfl

mutual

/-- **The indented layout** is cut into the same tokens at any depth. -/
theorem lexes_indented (depth : Nat) (v : Value) (plain : v.Plain) {text : List Char}
    {tokens : List Token} (stops : Stops text) (rest : Lexes .between text tokens) :
    Lexes .between (v.indented depth ++ text) (v.tokens ++ tokens) := by
  match v with
  | .null => exact Lexes.nullWord stops rest
  | .bool b => exact Lexes.boolWord b stops rest
  | .number n => exact lexes_number plain stops rest
  | .text s => exact Lexes.textLiteral s rest
  | .array [] => exact Lexes.openArray (Lexes.closeArray rest)
  | .array (item :: items) =>
    simp only [Value.Plain, PlainItems] at plain
    simp only [Value.indented, Value.tokens, List.cons_append, List.append_assoc]
    refine Lexes.openArray (Lexes.newLine (depth + 1) ?_)
    refine lexes_indented (depth + 1) item plain.1 (stops_indentedItems depth items text) ?_
    exact lexes_indentedItems depth items plain.2 rest
  | .object [] => exact Lexes.openObject (Lexes.closeObject rest)
  | .object ((key, value) :: members) =>
    simp only [Value.Plain, PlainMembers] at plain
    simp only [Value.indented, Value.tokens, List.cons_append, List.append_assoc]
    refine Lexes.openObject (Lexes.newLine (depth + 1) (Lexes.textLiteral key ?_))
    refine Lexes.colon (Lexes.blank ?_)
    refine lexes_indented (depth + 1) value plain.1 (stops_indentedMembers depth members text) ?_
    exact lexes_indentedMembers depth members plain.2 rest

theorem lexes_indentedItems (depth : Nat) (items : List Value) (plain : PlainItems items)
    {text : List Char} {tokens : List Token} (rest : Lexes .between text tokens) :
    Lexes .between (indentedItems depth items ++ text) (itemTokens items ++ tokens) := by
  match items with
  | [] =>
    simp only [indentedItems, List.append_assoc]
    exact Lexes.newLine depth (Lexes.closeArray rest)
  | item :: items =>
    simp only [PlainItems] at plain
    simp only [indentedItems, itemTokens, List.cons_append, List.append_assoc]
    refine Lexes.comma (Lexes.newLine (depth + 1) ?_)
    refine lexes_indented (depth + 1) item plain.1 (stops_indentedItems depth items text) ?_
    exact lexes_indentedItems depth items plain.2 rest

theorem lexes_indentedMembers (depth : Nat) (members : List (String × Value))
    (plain : PlainMembers members) {text : List Char} {tokens : List Token}
    (rest : Lexes .between text tokens) :
    Lexes .between (indentedMembers depth members ++ text) (memberTokens members ++ tokens) := by
  match members with
  | [] =>
    simp only [indentedMembers, List.append_assoc]
    exact Lexes.newLine depth (Lexes.closeObject rest)
  | (key, value) :: members =>
    simp only [PlainMembers] at plain
    simp only [indentedMembers, memberTokens, List.cons_append, List.append_assoc]
    refine Lexes.comma (Lexes.newLine (depth + 1) (Lexes.textLiteral key ?_))
    refine Lexes.colon (Lexes.blank ?_)
    refine lexes_indented (depth + 1) value plain.1 (stops_indentedMembers depth members text) ?_
    exact lexes_indentedMembers depth members plain.2 rest

end

/-! ## Trees -/

mutual

/-- The tree of a value's text. -/
def Value.tree : Value → Tree
  | .null => .null
  | .bool b => .bool b
  | .number n => .number n.written
  | .text s => .text (piecesOf s)
  | .array items => .array (itemTrees items)
  | .object members => .object (memberTrees members)

/-- The trees of items. -/
def itemTrees : List Value → List Tree
  | [] => []
  | item :: items => item.tree :: itemTrees items

/-- The keys of members, in pieces, and the trees of their values. -/
def memberTrees : List (String × Value) → List (List Piece × Tree)
  | [] => []
  | (key, value) :: members => (piecesOf key, value.tree) :: memberTrees members

end

/-- A builder makes a tree of tokens. -/
def Builds (builder : Builder) (tokens : List Token) (tree : Tree) : Prop :=
  (tokens.foldlM Builder.step builder).bind Builder.tree? = some tree

namespace Builds

variable {tree : Tree} {tokens : List Token} {stack : List Frame}

theorem done : Builds (.done tree) [] tree := rfl

/-- A token that leads on. -/
theorem step {builder builder' : Builder} {token : Token} (h : builder.step token = some builder')
    (rest : Builds builder' tokens tree) : Builds builder (token :: tokens) tree := by
  unfold Builds
  rw [List.foldlM_cons, h]
  exact rest

/-- The first item of an array is read like any other value, since it does not close the array. -/
theorem first (item : Value)
    (rest : Builds (.value (.array [] :: stack)) (item.tokens ++ tokens) tree) :
    Builds (.firstItem stack) (item.tokens ++ tokens) tree := by
  match item with
  | .null | .bool _ | .number _ | .text _ => exact rest
  | .array [] | .array (_ :: _) | .object [] | .object (_ :: _) => exact rest

end Builds

mutual

/-- **The tokens of a value** are built into its tree, wherever a value is due. -/
theorem builds_tokens (v : Value) {stack : List Frame} {tokens : List Token} {tree : Tree}
    (rest : Builds (.plug v.tree stack) tokens tree) :
    Builds (.value stack) (v.tokens ++ tokens) tree := by
  match v with
  | .null | .bool _ | .number _ | .text _ => exact Builds.step rfl rest
  | .array [] => exact Builds.step rfl (Builds.step rfl rest)
  | .array (item :: items) =>
    simp only [Value.tokens, List.cons_append, List.append_assoc]
    -- Its first item plugged in, the array waits for the next one.
    refine Builds.step rfl (Builds.first item (builds_tokens item ?_))
    exact builds_itemTokens items [item.tree] rest
  | .object [] => exact Builds.step rfl (Builds.step rfl rest)
  | .object ((key, value) :: members) =>
    simp only [Value.tokens, List.cons_append, List.append_assoc]
    refine Builds.step rfl (Builds.step rfl (Builds.step rfl (builds_tokens value ?_)))
    exact builds_memberTokens members [(piecesOf key, value.tree)] rest

theorem builds_itemTokens (items : List Value) (before : List Tree) {stack : List Frame}
    {tokens : List Token} {tree : Tree}
    (rest : Builds (.plug (.array (before.reverse ++ itemTrees items)) stack) tokens tree) :
    Builds (.nextItem before stack) (itemTokens items ++ tokens) tree := by
  match items with
  | [] =>
    simp only [itemTrees, List.append_nil] at rest
    exact Builds.step rfl rest
  | item :: items =>
    simp only [itemTokens, List.cons_append, List.append_assoc]
    refine Builds.step rfl (builds_tokens item (builds_itemTokens items (item.tree :: before) ?_))
    rw [List.reverse_cons, List.append_assoc]
    exact rest

theorem builds_memberTokens (members : List (String × Value)) (before : List (List Piece × Tree))
    {stack : List Frame} {tokens : List Token} {tree : Tree}
    (rest : Builds (.plug (.object (before.reverse ++ memberTrees members)) stack) tokens tree) :
    Builds (.nextMember before stack) (memberTokens members ++ tokens) tree := by
  match members with
  | [] =>
    simp only [memberTrees, List.append_nil] at rest
    exact Builds.step rfl rest
  | (key, value) :: members =>
    simp only [memberTokens, List.cons_append, List.append_assoc]
    refine Builds.step rfl (Builds.step rfl (Builds.step rfl (builds_tokens value ?_)))
    refine builds_memberTokens members ((piecesOf key, value.tree) :: before) ?_
    rw [List.reverse_cons, List.append_assoc]
    exact rest

end

/-! ## Texts -/

/-- A text is a value's, in one of the two layouts. -/
def Written (v : Value) (text : String) : Prop := text = v.toCompact ∨ text = v.toIndented

/-- **The text of a plain value** is read as its tree. -/
theorem Written.tree {v : Value} {text : String} (written : Written v text) (plain : v.Plain) :
    Tree.read? text.toList = some v.tree := by
  have lexes : Lexes .between text.toList v.tokens := by
    rcases written with rfl | rfl
    · have h := lexes_compact v plain stops_nil Lexes.nil
      rw [List.append_nil, List.append_nil] at h
      unfold Value.toCompact
      rwa [String.toList_ofList]
    · have h := lexes_indented 0 v plain stops_nil Lexes.nil
      rw [List.append_nil, List.append_nil] at h
      unfold Value.toIndented
      rwa [String.toList_ofList]
  have builds : Builds (.value []) (v.tokens ++ []) v.tree := builds_tokens v Builds.done
  rw [List.append_nil] at builds
  unfold Tree.read?
  rw [lexes.tokens?_eq]
  exact builds

end AnalysisDesk.Json
