/-!
# The fewest digits that identify a number

A finite number of double precision is `mantissa · 2 ^ exponent`. Among the decimals that round to
it, `Decimal.shortest` takes one with the fewest digits, and of two such the nearer one. All
arithmetic is exact, on natural numbers.
-/

namespace PatchTrail

/-- A decimal, `digits · 10 ^ exponent`. -/
structure Decimal where
  digits : Nat
  exponent : Int
deriving DecidableEq, Repr

namespace Decimal

/-- The size of a finite number of double precision, `mantissa · 2 ^ exponent`. Right below a power
of two the neighbouring numbers stand closer, which `narrowBelow` says. -/
structure Binary where
  mantissa : Nat
  exponent : Int
  narrowBelow : Bool
deriving DecidableEq, Repr

/-- The size of the number that some bits stand for; the bits must not be those of an infinity or
of an undefined number. -/
def Binary.ofBits (bits : UInt64) : Binary :=
  let scale := ((bits >>> 52) &&& 0x7ff).toNat
  let fraction := (bits &&& 0xfffffffffffff).toNat
  if scale = 0 then ⟨fraction, -1074, false⟩
  else ⟨0x10000000000000 + fraction, (scale : Int) - 1075, fraction == 0 && decide (1 < scale)⟩

/-- Compares `a · 10 ^ i` with `b · 2 ^ j`. -/
def compareScaled (a : Nat) (i : Int) (b : Nat) (j : Int) : Ordering :=
  compare (a * Nat.pow 10 i.toNat * Nat.pow 2 (-j).toNat)
    (b * Nat.pow 2 j.toNat * Nat.pow 10 (-i).toNat)

/-- Whether a decimal rounds to a number: it lies between the points halfway to the neighbours,
which themselves count if the mantissa is even. -/
def roundsTo (d : Decimal) (x : Binary) : Bool :=
  let low := if x.narrowBelow then 4 * x.mantissa - 1 else 4 * x.mantissa - 2
  let high := 4 * x.mantissa + 2
  let closed := x.mantissa % 2 == 0
  let atLow := compareScaled d.digits d.exponent low (x.exponent - 2)
  let atHigh := compareScaled d.digits d.exponent high (x.exponent - 2)
  (atLow == .gt || (closed && atLow == .eq)) && (atHigh == .lt || (closed && atHigh == .eq))

/-- The whole part of a number measured in units of `10 ^ unit`. -/
def wholeUnits (x : Binary) (unit : Int) : Nat :=
  x.mantissa * Nat.pow 2 x.exponent.toNat * Nat.pow 10 (-unit).toNat
    / (Nat.pow 2 (-x.exponent).toNat * Nat.pow 10 unit.toNat)

/-- The decimal in units of `10 ^ unit` that rounds to the number, if there is one. -/
def onGrid? (x : Binary) (unit : Int) : Option Decimal :=
  let below : Decimal := ⟨wholeUnits x unit, unit⟩
  let above : Decimal := ⟨below.digits + 1, unit⟩
  match below.roundsTo x, above.roundsTo x with
  | true, true =>
    match compareScaled (2 * below.digits + 1) unit (2 * x.mantissa) x.exponent with
    | .lt => some above
    | .gt => some below
    | .eq => some (if below.digits % 2 = 0 then below else above)
  | true, false => some below
  | false, true => some above
  | false, false => none

/-- The least `k` from `guess` on with the number below `10 ^ k`. -/
def magnitude (x : Binary) : (steps : Nat) → (guess : Int) → Int
  | 0, guess => guess
  | steps + 1, guess =>
    if compareScaled 1 guess x.mantissa x.exponent == .gt then guess
    else magnitude x steps (guess + 1)

/-- A decimal without zeros at its end. -/
def strip : (steps : Nat) → Decimal → Decimal
  | 0, d => d
  | steps + 1, d =>
    if d.digits % 10 = 0 ∧ d.digits ≠ 0 then strip steps ⟨d.digits / 10, d.exponent + 1⟩ else d

/-- Tries finer and finer grids, from units of `10 ^ unit` on. The exact value stands at the end. -/
def searchGrids (x : Binary) : (steps : Nat) → (unit : Int) → Decimal
  | 0, _ =>
    ⟨x.mantissa * Nat.pow 2 x.exponent.toNat * Nat.pow 5 (-x.exponent).toNat,
      -((-x.exponent).toNat : Int)⟩
  | steps + 1, unit =>
    match onGrid? x unit with
    | some d => strip 20 d
    | none => searchGrids x steps (unit - 1)

/-- The decimal with the fewest digits that rounds to a positive number. -/
def Binary.shortest (x : Binary) : Decimal :=
  if x.mantissa = 0 then ⟨0, 0⟩
  else
    let bits := (x.mantissa.log2 : Int) + x.exponent
    let guess := bits * 30103 / 100000 - 1
    searchGrids x 20 (magnitude x 6 guess - 1)

/-- The decimal with the fewest digits that rounds to the size of a finite number. -/
def shortest (x : Float) : Decimal := (Binary.ofBits x.toBits).shortest

end Decimal

end PatchTrail
