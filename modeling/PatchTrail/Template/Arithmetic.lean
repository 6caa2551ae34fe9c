import PatchTrail.Decimal.Rounding
import PatchTrail.Template.Value.Order

/-!
# Operators on values

Every operator takes two values to a value or to an error, and every comparison to a truth value.
Where integers meet, the result of an operator is exact and has to lie between `-2^127` and `2^127`;
where a decimal is one of the operands, so is the result. Texts and lists can be put together and
repeated.
-/

namespace PatchTrail.Template

/-- Operators with two operands, both of which are computed. -/
inductive Operator where
  | plus
  | minus
  | times
  | divide
  | floorDivide
  | modulo
  | power
  | join
deriving DecidableEq, Repr

namespace Operator

/-- How an operator is written. -/
def spelling : Operator → Text
  | plus => "+"
  | minus => "-"
  | times => "*"
  | divide => "/"
  | floorDivide => "//"
  | modulo => "%"
  | power => "**"
  | join => "~"

/-- The error of an operator that its operands do not know. -/
def unsupported (op : Operator) (a b : Value) : Error :=
  .invalid ("tried to use " ++ op.spelling ++ " operator on unsupported types " ++ a.kind ++ " and "
    ++ b.kind)

/-- The error of an operator that has no result for its operands. -/
def impossible (op : Operator) (a b : Value) : Error :=
  .invalid ("unable to calculate " ++ a.display ++ " " ++ op.spelling ++ " " ++ b.display)

/-- The exact result for two integers, if there is one. -/
def onIntegers? (op : Operator) (a b : Int) : Option Int :=
  match op with
  | plus => some (a + b)
  | minus => some (a - b)
  | times => some (a * b)
  | floorDivide => if b = 0 then none else some (a / b)
  | modulo => if b = 0 then none else some (a % b)
  | power =>
    if b < 0 ∨ (Width.bound32 : Int) ≤ b then none
    else if a.natAbs ≤ 1 then some (if a = -1 ∧ b % 2 = 0 then 1 else if b = 0 then 1 else a)
    else if 127 < b then none
    else some (Int.pow a b.toNat)
  | _ => none

/-- The result for two decimals. -/
def onDecimals (op : Operator) (x y : Float) : Float :=
  match op with
  | plus => x + y
  | minus => x - y
  | times => x * y
  | divide => x / y
  | floorDivide => Decimal.euclideanQuotient x y
  | modulo => Decimal.remainder x y
  | power => x.pow y
  | _ => 0.0 / 0.0

/-- The result of an operator on numbers. -/
def calculate (op : Operator) (a b : Value) : Except Error Value :=
  match Pair.of? true a b with
  | some (.integers i j) =>
    match (op.onIntegers? i j).filter (Width.fits Width.half128) with
    | some k => .ok (.integer k)
    | none => .error (op.impossible a b)
  | some (.decimals x y) => .ok (.decimal (op.onDecimals x y))
  | _ => .error (op.unsupported a b)

end Operator

namespace Value

/-- The items of a list. -/
def listed? : Value → Option (List Value)
  | list _ _ vs => some vs
  | _ => Option.none

/-- The sum of two values. -/
def add (a b : Value) : Except Error Value :=
  match a.listed?, b.listed? with
  | some as, some bs => .ok (.ofItems .counted (as ++ bs))
  | _, _ =>
    match a.asText?, b.asText? with
    | some s, some t => .ok (ofText (s ++ t))
    | _, _ => Operator.plus.calculate a b

/-- How often something is repeated, where a number that says so is asked for. -/
def repetitions (complaint : Text) (v : Value) : Except Error Nat :=
  match v.asNatural with
  | .ok n => .ok n
  | .error _ => .error (.invalid complaint)

/-- Some items over and over again. A single one is not put into a list of its own every time. -/
def repeated {α : Type} (n : Nat) : List α → List α
  | [] => []
  | [a] => List.replicate n a
  | as => (List.replicate n as).flatten

/-- A list over and over again. -/
def repeatItems (v : Value) (vs : List Value) (count : Value) : Except Error Value := do
  let n ← count.repetitions "sequences and iterables can only be multiplied with integers"
  if v.size?.isNone then throw (.invalid "cannot repeat unsized iterables")
  return .ofItems .counted (repeated n vs)

/-- How long a text can become when it is repeated, in bytes. -/
def maxRepeated : Nat := 100000000

/-- A text over and over again. -/
def repeatText (t : Text) (count : Value) : Except Error Value := do
  let n ← count.repetitions "strings can only be multiplied with integers"
  if maxRepeated < Text.size t * n then throw (.invalid "repeated string is too large")
  return ofText (repeated n t)

/-- The product of two values. -/
def multiply (a b : Value) : Except Error Value :=
  match a.asText?, b.asText? with
  | some t, _ => repeatText t b
  | _, some t => repeatText t a
  | _, _ =>
    match a.listed?, b.listed? with
    | some vs, _ => repeatItems a vs b
    | _, some vs => repeatItems b vs a
    | _, _ => Operator.times.calculate a b

/-- The quotient of two values. -/
def divide (a b : Value) : Except Error Value :=
  match a.asDecimal?, b.asDecimal? with
  | some x, some y => .ok (.decimal (x / y))
  | _, _ => .error (Operator.divide.unsupported a b)

/-- The opposite of a value. -/
def negate : Value → Except Error Value
  | decimal x => .ok (.decimal (-x))
  | integer i =>
    if i = (Width.half128 : Int) then .ok (.integer i)
    else if Width.fits Width.half128 i then
      if i = -(Width.half128 : Int) then .error (.invalid "overflow") else .ok (.integer (-i))
    else .error { kind := .invalidOperation }
  | _ => .error { kind := .invalidOperation }

/-- Whether a value is in another one. -/
def isIn (v container : Value) : Except Error Bool :=
  match container with
  | undefined => .ok false
  | text t _ => .ok (Text.contains t v.display)
  | list _ _ vs => .ok (vs.any fun w => w.equals v)
  | map _ _ entries => .ok (lookup? v entries).isSome
  | function _ => .ok false
  | _ => .error (.invalid "cannot perform a containment check on this value")

end Value

/-- The result of an operator. -/
def Operator.apply (op : Operator) (a b : Value) : Except Error Value :=
  match op with
  | plus => a.add b
  | times => a.multiply b
  | divide => a.divide b
  | join => .ok (.ofText (a.display ++ b.display))
  | op => op.calculate a b

/-! ## Comparisons -/

/-- Comparisons of two values. -/
inductive Comparison where
  | equal
  | notEqual
  | less
  | lessEqual
  | greater
  | greaterEqual
  | within
  | notWithin
deriving DecidableEq, Repr

/-- Whether a comparison holds. -/
def Comparison.holds (c : Comparison) (a b : Value) : Except Error Bool :=
  match c with
  | equal => .ok (a.equals b)
  | notEqual => .ok (!a.equals b)
  | less => .ok (a.compare b == .lt)
  | lessEqual => .ok (a.compare b != .gt)
  | greater => .ok (a.compare b == .gt)
  | greaterEqual => .ok (a.compare b != .lt)
  | within => a.isIn b
  | notWithin => (a.isIn b).map not

/-! ## Parts of texts and lists -/

/-- Every `step`-th item, from the first on. -/
def everyNth {α : Type} (step : Nat) : List α → Nat → List α
  | [], _ => []
  | a :: rest, 0 => a :: everyNth step rest (step - 1)
  | _ :: rest, wait + 1 => everyNth step rest wait

/-- A position, counted from the end if it is negative. One in front of the first counts as the
first. -/
def slicePosition (size : Nat) (i : Int) : Nat := if 0 ≤ i then i.toNat else (size + i).toNat

/-- The items from one position up to another, forwards. -/
def sliceForwards {α : Type} (start? stop? : Option Int) (step : Nat) (vs : List α) : List α :=
  let start := slicePosition vs.length (start?.getD 0)
  let stop := stop?.elim vs.length (slicePosition vs.length)
  everyNth step ((vs.drop start).take (stop - start)) 0

/-- The items from one position down to another, backwards. -/
def sliceBackwards {α : Type} (start? stop? : Option Int) (step : Nat) (vs : List α) : List α :=
  let above (i : Int) : Nat := (if 0 ≤ i then i + 1 else vs.length + i + 1).toNat
  let upper := start?.elim vs.length above
  let lower := stop?.elim 0 above
  everyNth step ((vs.take upper).drop lower).reverse 0

/-- The items that a slice selects. -/
def sliceItems {α : Type} (start? stop? : Option Int) (step : Int) (vs : List α) : List α :=
  if 0 < step then sliceForwards start? stop? step.toNat vs
  else sliceBackwards start? stop? step.natAbs vs

/-- The number at one end of a slice, which may be missing. -/
def sliceEnd : Value → Except Error (Option Int)
  | .none => .ok none
  | v => v.asInt64.map some

/-- The part of a value that a slice selects. -/
def Value.slice (v start stop step : Value) : Except Error Value := do
  let start? ← sliceEnd start
  let stop? ← sliceEnd stop
  let step := (← sliceEnd step).getD 1
  if step = 0 then throw (.invalid "cannot slice by step size of 0")
  match v with
  | .text t _ => return .ofText (sliceItems start? stop? step t)
  | .list _ _ vs => return .ofItems .counted (sliceItems start? stop? step vs)
  | .undefined => return .ofList []
  | .none => return .ofList []
  | v => throw (.invalid ("value of type " ++ v.kind ++ " cannot be sliced"))

end PatchTrail.Template
