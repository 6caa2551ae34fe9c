import PatchTrail.Template.Value.Basic
import PatchTrail.Width

/-!
# Values as numbers

Integers lie between `-2^127` and `2^127`. Larger ones can only be written down; where two of them
meet they count as what they leave over `2^128`. Truth values count as the integers zero and one,
and a decimal that is whole counts as an integer where one is asked for. Where two values meet in
an operation they are taken as integers if both can be, and as decimals if one of them is one
(`Pair.of?`).
-/

namespace PatchTrail.Template

namespace Value

/-- The integer that a value stands for. -/
def wholeNumber? : Value → Option Int
  | boolean b => some (if b then 1 else 0)
  | integer i => some i
  | decimal x =>
    let i := Decimal.truncate (-(Width.half64 : Int)) (Width.half64 - 1 : Int) x
    if Float.ofInt i == x then some i else Option.none
  | _ => Option.none

/-- The integer between two bounds that a value stands for, where an integer of a kind is asked
for. -/
def asInteger (name : Text) (low high : Int) (v : Value) : Except Error Int :=
  match v.wholeNumber?.filter fun i => decide (low ≤ i) && decide (i ≤ high) with
  | some i => .ok i
  | Option.none => .error (.invalid ("cannot convert " ++ v.kind ++ " to " ++ name))

/-- The integer of 64 bits that a value stands for. -/
def asInt64 (v : Value) : Except Error Int :=
  v.asInteger "i64" (-(Width.half64 : Int)) (Width.half64 - 1 : Int)

/-- The natural number of 64 bits that a value stands for. -/
def asNatural (v : Value) : Except Error Nat :=
  (v.asInteger "usize" 0 (Width.bound64 - 1 : Int)).map Int.toNat

/-- The decimal that a value stands for, perhaps only approximately. -/
def asDecimal? : Value → Option Float
  | boolean b => some (if b then 1.0 else 0.0)
  | integer i => some (Float.ofInt i)
  | decimal x => some x
  | _ => Option.none

/-- Whether an integer is the same as its nearest decimal. -/
def isExact (i : Int) : Bool :=
  Decimal.truncate (-(Width.half128 : Int)) (Width.bound128 : Int) (Float.ofInt i) == i

end Value

/-- Two values that meet in an operation. -/
inductive Pair where
  | integers (a b : Int)
  | decimals (a b : Float)
  | texts (a b : Text)

namespace Pair

/-- The decimal that a value stands for next to another decimal. -/
def decimalOf? (isLossy : Bool) : Value → Option Float
  | .integer i => if isLossy || Value.isExact i then some (Float.ofInt i) else none
  | v => v.asDecimal?

/-- The integer that a value stands for next to another integer. -/
def integerOf? (v : Value) : Option Int := v.wholeNumber?.filter (Width.fits Width.half128)

/-- The integer that a value is if it is too large to count as one next to others. -/
def largeOf? : Value → Option Int
  | .integer i => if (Width.half128 : Int) ≤ i then some i else none
  | _ => none

/-- What two values are to each other. Integers may be rounded to decimals if `isLossy`. -/
def of? (isLossy : Bool) : Value → Value → Option Pair
  | .text a _, .text b _ => some (texts a b)
  | .decimal a, b => (decimalOf? isLossy b).map (decimals a)
  | a, .decimal b => (decimalOf? isLossy a).map (decimals · b)
  | a, b =>
    match integerOf? a, integerOf? b with
    | some a, some b => some (integers a b)
    | _, _ =>
      match largeOf? a, largeOf? b with
      | some a, some b => some (integers (a - Width.bound128) (b - Width.bound128))
      | _, _ => none

end Pair

end PatchTrail.Template
