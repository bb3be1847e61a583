import AnalysisDesk.Number.Layout

/-! # JSON values
A value with the numbers and objects the service's answers are read into: a whole number that fits
in 64 bits stays whole, any other number is a binary one, and the members of an object are kept in
the order of their keys, each key once. -/

namespace AnalysisDesk.Json

open AnalysisDesk.Number (Binary64)

/-- A number: whole within 64 bits, or binary. -/
inductive Numeral
  /-- A whole number from `-2 ^ 63` to `2 ^ 64 - 1`. -/
  | whole (n : Int)
  /-- A finite binary number. -/
  | binary (x : Binary64)
  deriving DecidableEq, Repr

/-- A JSON value. -/
inductive Value
  | null
  | bool (b : Bool)
  | number (n : Numeral)
  | text (s : String)
  | array (items : List Value)
  | object (members : List (String × Value))
  deriving Repr

/-- Put a member into an ordered list of members; an equal key is replaced. -/
def insertMember (key : String) (value : Value) :
    List (String × Value) → List (String × Value)
  | [] => [(key, value)]
  | (other, held) :: rest =>
    if key < other then (key, value) :: (other, held) :: rest
    else if key = other then (key, value) :: rest
    else (other, held) :: insertMember key value rest

/-- The ordered members of a list of members, where a later value of a key wins. -/
def orderMembers (members : List (String × Value)) : List (String × Value) :=
  members.foldl (fun ordered member => insertMember member.1 member.2 ordered) []

/-- The value of a key among the members of an object. -/
def findMember (key : String) : List (String × Value) → Option Value
  | [] => none
  | (other, value) :: rest => if other = key then some value else findMember key rest

@[simp] theorem insertMember_nil (key : String) (value : Value) :
    insertMember key value [] = [(key, value)] := rfl

@[simp] theorem orderMembers_nil : orderMembers [] = [] := rfl

/-- A member that was put in is found. -/
@[simp] theorem findMember_insertMember (key : String) (value : Value)
    (members : List (String × Value)) :
    findMember key (insertMember key value members) = some value := by
  induction members with
  | nil => simp [findMember]
  | cons member rest ih =>
    obtain ⟨other, held⟩ := member
    unfold insertMember
    split
    · simp [findMember]
    · split
      · simp [findMember]
      · rename_i h
        simp [findMember, Ne.symm h, ih]

end AnalysisDesk.Json
