import PatchTrail.Text.Basic

/-!
# Values of JSON

A number is kept as an integer if it is written without a fraction and without an exponent and lies
between `-2^63` and `2^64`, and otherwise as a number of double precision; a negative zero is one
of the latter. The members of an object stand in the order in which they were written, and a name
may occur more than once (`Value.settled` keeps the last of each and sorts them).
-/

namespace PatchTrail.Json

/-- A number. -/
inductive Number where
  | integer (i : Int)
  | decimal (x : Float)

/-- A value. -/
inductive Value where
  | null
  | boolean (b : Bool)
  | number (n : Number)
  | string (t : Text)
  | array (elements : List Value)
  | object (members : List (Text × Value))

instance : Inhabited Value := ⟨.null⟩

/-- Puts a member into its place among sorted members, instead of one of the same name. -/
def insertMember {α : Type} (name : Text) (v : α) : List (Text × α) → List (Text × α)
  | [] => [(name, v)]
  | (other, w) :: rest =>
    if name = other then (name, v) :: rest
    else if name < other then (name, v) :: (other, w) :: rest
    else (other, w) :: insertMember name v rest

/-- Members sorted by name, the last of each name only. -/
def sortMembers {α : Type} (members : List (Text × α)) : List (Text × α) :=
  members.foldl (fun sorted (name, v) => insertMember name v sorted) []

mutual

/-- A value all of whose objects have sorted members with different names. -/
def Value.settled : Value → Value
  | .array elements => .array (settledElements elements)
  | .object members => .object (sortMembers (settledMembers members))
  | v => v

/-- The elements of an array with all their objects settled. -/
def settledElements : List Value → List Value
  | [] => []
  | v :: rest => v.settled :: settledElements rest

/-- The members of an object with all their own objects settled. -/
def settledMembers : List (Text × Value) → List (Text × Value)
  | [] => []
  | (name, v) :: rest => (name, v.settled) :: settledMembers rest

end

/-- The first member of a name. -/
def member? (name : Text) (members : List (Text × Value)) : Option Value :=
  (members.find? fun m => m.1 == name).map Prod.snd

/-- The member of a name, if the value is an object that has one. -/
def Value.member? (name : Text) : Value → Option Value
  | .object members => Json.member? name members
  | _ => none

end PatchTrail.Json
