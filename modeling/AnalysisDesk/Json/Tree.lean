import AnalysisDesk.Json.Token

/-! # Syntax trees of JSON texts
A tree keeps what a text says without judging it: numbers may be too large, strings may hold lone
halves of surrogate pairs, keys may repeat, and nothing bounds the depth. The tokens are read one
after another against a stack of open containers. -/

namespace AnalysisDesk.Json

/-- A text's structure, as written. -/
inductive Tree
  | null
  | bool (b : Bool)
  | number (n : WrittenNumber)
  | text (pieces : List Piece)
  | array (items : List Tree)
  | object (members : List (List Piece × Tree))
  deriving Repr

/-- A container that waits for the value being read; what it holds so far is in reverse. -/
inductive Frame
  | array (items : List Tree)
  | object (members : List (List Piece × Tree)) (key : List Piece)
  deriving Repr

/-- What may come next, and the containers still open. -/
inductive Builder
  /-- A value is due. -/
  | value (stack : List Frame)
  /-- A value or the end of an array that has just begun. -/
  | firstItem (stack : List Frame)
  /-- A comma or the end of an array. -/
  | nextItem (items : List Tree) (stack : List Frame)
  /-- A key or the end of an object that has just begun. -/
  | firstMember (stack : List Frame)
  /-- A key is due. -/
  | member (members : List (List Piece × Tree)) (stack : List Frame)
  /-- A colon is due. -/
  | colon (members : List (List Piece × Tree)) (key : List Piece) (stack : List Frame)
  /-- A comma or the end of an object. -/
  | nextMember (members : List (List Piece × Tree)) (stack : List Frame)
  /-- The whole tree has been read. -/
  | done (tree : Tree)
  deriving Repr

namespace Builder

/-- A finished value goes into the innermost open container. -/
def plug (tree : Tree) : List Frame → Builder
  | [] => .done tree
  | .array items :: stack => .nextItem (tree :: items) stack
  | .object members key :: stack => .nextMember ((key, tree) :: members) stack

/-- A token where a value is due. -/
def beginValue (stack : List Frame) : Token → Option Builder
  | .openArray => some (.firstItem stack)
  | .openObject => some (.firstMember stack)
  | .null => some (plug .null stack)
  | .bool b => some (plug (.bool b) stack)
  | .number n => some (plug (.number n) stack)
  | .text pieces => some (plug (.text pieces) stack)
  | .closeArray | .closeObject | .comma | .colon => none

/-- The builder after one more token. -/
def step : Builder → Token → Option Builder
  | .value stack, token => beginValue stack token
  | .firstItem stack, .closeArray => some (plug (.array []) stack)
  | .firstItem stack, token => beginValue (.array [] :: stack) token
  | .nextItem items stack, .comma => some (.value (.array items :: stack))
  | .nextItem items stack, .closeArray => some (plug (.array items.reverse) stack)
  | .nextItem .., _ => none
  | .firstMember stack, .closeObject => some (plug (.object []) stack)
  | .firstMember stack, .text key => some (.colon [] key stack)
  | .firstMember _, _ => none
  | .member members stack, .text key => some (.colon members key stack)
  | .member .., _ => none
  | .colon members key stack, .colon => some (.value (.object members key :: stack))
  | .colon .., _ => none
  | .nextMember members stack, .comma => some (.member members stack)
  | .nextMember members stack, .closeObject => some (plug (.object members.reverse) stack)
  | .nextMember .., _ => none
  | .done _, _ => none

/-- The tree, if it is complete. -/
def tree? : Builder → Option Tree
  | .done tree => some tree
  | _ => none

end Builder

/-- The tree of a list of tokens. -/
def Tree.ofTokens? (tokens : List Token) : Option Tree := do
  (← tokens.foldlM Builder.step (.value [])).tree?

/-- The tree of a text. -/
def Tree.read? (text : List Char) : Option Tree := do Tree.ofTokens? (← tokens? text)

end AnalysisDesk.Json
