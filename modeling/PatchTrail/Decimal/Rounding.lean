import PatchTrail.Decimal.Shortest
import PatchTrail.Text.Numeral
import PatchTrail.Width

/-!
# Remainders and decimals with a given number of digits

The remainder of a division whose quotient is cut towards zero is computed exactly on the mantissas,
brought to one exponent, and is always a number of double precision itself.

A number of double precision is rounded to a given number of places behind the point (`fixed`), or
to a given number of digits with an exponent (`scientific`). The rounding is exact: the nearest
decimal is taken, and of two that are equally near the even one (`roundDiv`).
-/

namespace PatchTrail.Decimal

/-! ## Remainders -/

/-- The size of a number without its sign. -/
def sizeOf (x : Float) : Binary := Binary.ofBits (x.toBits &&& 0x7fffffffffffffff)

/-- Whether a number has a sign, which a zero can have too. -/
def isNegative (x : Float) : Bool := decide (Width.half64 ≤ x.toBits.toNat)

/-- The remainder of two sizes in units of a power of two, and the exponent of that power. -/
def remainderOfSizes (a b : Binary) : Nat × Int :=
  let unit := min a.exponent b.exponent
  let units (x : Binary) : Nat := x.mantissa * Nat.pow 2 (x.exponent - unit).toNat
  (units a % units b, unit)

/-- The remainder of a division, with the sign of the dividend. -/
def remainder (x y : Float) : Float :=
  if x.isNaN || y.isNaN || x.isInf || y == 0.0 then 0.0 / 0.0
  else if y.isInf then x
  else
    let (units, unit) := remainderOfSizes (sizeOf x) (sizeOf y)
    let size := (Float.ofNat units).scaleB unit
    if isNegative x then -size else size

/-- A number without its fraction. -/
def cut (x : Float) : Float := if isNegative x then x.ceil else x.floor

/-- The quotient that leaves a remainder without a sign. -/
def euclideanQuotient (x y : Float) : Float :=
  let q := cut (x / y)
  if remainder x y < 0.0 then if y > 0.0 then q - 1.0 else q + 1.0 else q

/-! ## Rounding -/

/-- A quotient rounded to the nearest number, and halfway between two of them to the even one. -/
def roundDiv (dividend divisor : Nat) : Nat :=
  let quotient := dividend / divisor
  match compare (2 * (dividend % divisor)) divisor with
  | .lt => quotient
  | .gt => quotient + 1
  | .eq => if quotient % 2 = 0 then quotient else quotient + 1

/-- A size in units of `10 ^ unit`, rounded. -/
def Binary.inUnits (x : Binary) (unit : Int) : Nat :=
  roundDiv (x.mantissa * Nat.pow 2 x.exponent.toNat * Nat.pow 10 (-unit).toNat)
    (Nat.pow 2 (-x.exponent).toNat * Nat.pow 10 unit.toNat)

/-- Digits with a point in front of the last `places` of them. -/
def withPoint (places : Nat) (digits : Text) : Text :=
  let padded := List.replicate (places + 1 - digits.length) '0' ++ digits
  let whole := padded.take (padded.length - places)
  if places = 0 then whole else whole ++ '.' :: padded.drop (padded.length - places)

/-- A size with some places behind the point. -/
def Binary.fixed (places : Nat) (x : Binary) : Text :=
  withPoint places (Text.ofNat (x.inUnits (-(places : Int))))

/-- The power of ten at which the leading digit of a size stands. -/
def Binary.leading (x : Binary) : Int :=
  if x.mantissa = 0 then 0
  else magnitude x 6 (((x.mantissa.log2 : Int) + x.exponent) * 30103 / 100000 - 1) - 1

/-- The digits of a size, of which there are `places` behind the first, and the power of ten at
which the first stands. -/
def Binary.digits (places : Nat) (x : Binary) : Nat × Int :=
  let digits := x.inUnits (x.leading - places)
  if Nat.pow 10 (places + 1) ≤ digits then (digits / 10, x.leading + 1) else (digits, x.leading)

/-- An exponent with its sign and at least two digits. -/
def exponentText (e : Int) : Text :=
  let digits := Text.ofNat e.natAbs
  (if e < 0 then '-' else '+') :: (List.replicate (2 - digits.length) '0' ++ digits)

/-- A size with some places behind its first digit, and an exponent. -/
def Binary.scientific (places : Nat) (mark : Char) (x : Binary) : Text :=
  let (digits, e) := x.digits places
  withPoint places (Text.ofNat digits) ++ mark :: exponentText e

/-- A numeral without zeros at the end of its fraction. -/
def dropZeros (t : Text) : Text :=
  if t.elem '.' then
    let kept := (t.reverse.dropWhile (· == '0')).reverse
    if kept.getLast? = some '.' then kept.dropLast else kept
  else t

/-- A size with some digits: around the point if its first digit does not stand too far from it,
otherwise with an exponent. Zeros at the end of the fraction are kept only if `keepsZeros`. -/
def Binary.general (size : Nat) (mark : Char) (keepsZeros : Bool) (x : Binary) : Text :=
  let size := max size 1
  let (digits, e) := x.digits (size - 1)
  let trim (t : Text) : Text := if keepsZeros then t else dropZeros t
  if -4 ≤ e ∧ e < size then trim (x.fixed ((size - 1 : Int) - e).toNat)
  else trim (withPoint (size - 1) (Text.ofNat digits)) ++ mark :: exponentText e

end PatchTrail.Decimal
