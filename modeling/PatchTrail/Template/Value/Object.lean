import PatchTrail.Template.Value.Order

/-!
# Values that can be told apart

Lists and maps get a number when they come into being (`Value.numbered`), by which one can be told
from another with the same contents. Macros, the states of loops, and variables that can be changed
from everywhere are maps as well: the entries of the first two are made here, and those of the last
are brought up to date (`Value.refreshed`).
-/

namespace PatchTrail.Template

/-- A state with the next number that nothing has yet. -/
abbrev Numbering := StateM Nat

/-- A number that nothing has yet. -/
def Numbering.next : Numbering Nat := fun n => (n, n + 1)

namespace Value

/-! ## Numbers -/

mutual

/-- A value with a number for every list and map in it that has none. Inside of one that has a
number all others have one too. -/
def numbered : Value → Numbering Value
  | list 0 extent vs => do return list (← Numbering.next) extent (← numberedItems vs)
  | map 0 nature es => do return map (← Numbering.next) nature (← numberedEntries es)
  | v => return v

/-- Items with numbers. -/
def numberedItems : List Value → Numbering (List Value)
  | [] => return []
  | v :: rest => do return (← v.numbered) :: (← numberedItems rest)

/-- Entries with numbers. -/
def numberedEntries : List (Value × Value) → Numbering (List (Value × Value))
  | [] => return []
  | (k, v) :: rest => do
    let key ← k.numbered
    let value ← v.numbered
    return (key, value) :: (← numberedEntries rest)

end

/-- Whether two values are the same: lists and maps if they have the same number, all others if
they are equal and of one kind. -/
def isSame (v w : Value) : Bool :=
  match v, w with
  | list i _ _, list j _ _ => i != 0 && i == j
  | map i _ _, map j _ _ => i != 0 && i == j
  | integer i, integer j => i == j
  | integer _, _ => false
  | _, integer _ => false
  | v, w => v.kind == w.kind && v.equals w

/-! ## Loops and macros -/

/-- The state of a loop at an item: where it is, how many items there are, how deep it lies in
other loops, and the items on both sides. -/
def loopState (id index : Nat) (size? : Option Nat) (depth : Nat) (previous next : Value) : Value :=
  let counted (f : Nat → Nat) : Value := size?.elim .undefined fun size => ofNat (f size)
  .map id (.loop index size?)
    [(ofText "index0", ofNat index),
      (ofText "index", ofNat (index + 1)),
      (ofText "length", counted fun size => size),
      (ofText "revindex", counted fun size => size - index),
      (ofText "revindex0", counted fun size => size - index - 1),
      (ofText "first", .boolean (index == 0)),
      (ofText "last", .boolean (size?.any fun size => size == 0 || index == size - 1)),
      (ofText "depth", ofNat (depth + 1)),
      (ofText "depth0", ofNat depth),
      (ofText "previtem", previous),
      (ofText "nextitem", next)]

/-- A macro with its parameters. -/
def ofMacro (index : Nat) (name : Text) (parameters : List Text) (usesCaller : Bool) : Value :=
  .map 0 (.macroRef index name)
    [(ofText "name", ofText name),
      (ofText "arguments", ofList (parameters.map fun p => ofText p)),
      (ofText "caller", .boolean usesCaller)]

/-! ## Variables that can be changed from everywhere -/

mutual

/-- A value in which sets of variables have the entries that they are given, if they are given
any. -/
def refreshedBy (entries? : Nat → Option (List (Value × Value))) : Value → Value
  | list id extent vs => list id extent (refreshItems entries? vs)
  | map id (.space i) es => map id (.space i) ((entries? i).getD es)
  | map id nature es => map id nature (refreshEntries entries? es)
  | v => v

/-- Items with what sets of variables are given in them. -/
def refreshItems (entries? : Nat → Option (List (Value × Value))) : List Value → List Value
  | [] => []
  | v :: rest => v.refreshedBy entries? :: refreshItems entries? rest

/-- Entries with what sets of variables are given in them. -/
def refreshEntries (entries? : Nat → Option (List (Value × Value))) :
    List (Value × Value) → List (Value × Value)
  | [] => []
  | (k, v) :: rest => (k, v.refreshedBy entries?) :: refreshEntries entries? rest

end

/-- The entries of a set of variables, in which all others are up to date. A set that lies in
itself, found at most `bound` sets deep, is not looked at once more. -/
def currentEntries (spaces : Array (List (Value × Value))) :
    (bound : Nat) → (seen : List Nat) → Nat → Option (List (Value × Value))
  | 0, _, _ => Option.none
  | bound + 1, seen, i =>
    if seen.contains i then Option.none
    else (spaces[i]?).map (refreshEntries (currentEntries spaces bound (i :: seen)))

/-- A value in which all sets of variables are up to date. -/
def refreshed (spaces : Array (List (Value × Value))) (v : Value) : Value :=
  if spaces.isEmpty then v else v.refreshedBy (currentEntries spaces spaces.size [])

end Value

end PatchTrail.Template
