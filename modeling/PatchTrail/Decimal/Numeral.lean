import PatchTrail.Decimal.Shortest
import PatchTrail.Text.Numeral

/-!
# Decimal numerals

A layout says for which sizes the digits of a decimal are written around a point and for which with
an exponent, whether a whole number keeps a zero behind its point, and how an exponent is marked. In
the other direction a numeral stands for the number of double precision that is nearest to it
(`Decimal.parse?`), and a number is cut to an integer (`Decimal.truncate`).
-/

namespace PatchTrail.Decimal

/-! ## Writing -/

/-- The decisions of a layout. A number with its leading digit at `10 ^ e` is written around a
point if `positionalFrom ≤ e < positionalBelow`, where `none` is no limit. -/
structure Layout where
  positionalFrom : Option Int
  positionalBelow : Option Int
  /-- Whether a positive exponent has a plus sign. -/
  plusSign : Bool
deriving DecidableEq, Repr

/-- The power of ten at which a decimal's leading digit stands. -/
def leading (d : Decimal) : Int := (Text.ofNat d.digits).length + d.exponent - 1

/-- A decimal around a point, with at least one digit on either side of it. -/
def positional (d : Decimal) : Text :=
  let digits := Text.ofNat d.digits
  if 0 ≤ d.exponent then digits ++ List.replicate d.exponent.toNat '0' ++ ".0"
  else
    let places := (-d.exponent).toNat
    let padded := List.replicate (places + 1 - digits.length) '0' ++ digits
    padded.take (padded.length - places) ++ "." ++ padded.drop (padded.length - places)

/-- A decimal with an exponent. -/
def scientific (plusSign : Bool) (d : Decimal) : Text :=
  let exponent := d.leading
  let mark : Text := if plusSign && decide (0 ≤ exponent) then "e+" else "e"
  let mantissa : Text :=
    match Text.ofNat d.digits with
    | [] => []
    | [c] => [c]
    | c :: more => c :: '.' :: more
  mantissa ++ mark ++ Text.ofInt exponent

/-- Whether a decimal is written around a point. -/
def Layout.isPositional (n : Layout) (d : Decimal) : Bool :=
  d.digits = 0
    || ((n.positionalFrom.all fun low => decide (low ≤ d.leading))
      && (n.positionalBelow.all fun high => decide (d.leading < high)))

/-- A decimal in a layout. -/
def Layout.render (n : Layout) (d : Decimal) : Text :=
  if n.isPositional d then d.positional else d.scientific n.plusSign

/-- A finite number in a layout, with a minus sign if it has one. -/
def Layout.renderFloat (n : Layout) (x : Float) : Text :=
  let sign : Text := if x.toBits >>> 63 = 1 then "-" else ""
  sign ++ n.render (shortest x)

/-! ## Reading -/

/-- The number of double precision that is nearest to a decimal. -/
def nearest (d : Decimal) : Float :=
  if d.digits = 0 then 0.0
  else
    let leading := (Text.ofNat d.digits).length + d.exponent
    if 400 < leading then 1.0 / 0.0
    else if leading < -400 then 0.0
    else if 0 ≤ d.exponent then Float.ofScientific d.digits false d.exponent.toNat
    else Float.ofScientific d.digits true (-d.exponent).toNat

/-- The decimal of digits before and after a point. -/
def ofParts? (whole fraction : Text) (exponent : Int) : Option Decimal :=
  match Text.toNat? 10 (whole ++ fraction) with
  | some digits => some ⟨digits, exponent - fraction.length⟩
  | none => none

/-- The integer of a numeral that may have a sign. -/
def toInt? : Text → Option Int
  | '+' :: digits => (Text.toNat? 10 digits).map Int.ofNat
  | '-' :: digits => (Text.toNat? 10 digits).map fun n => -(n : Int)
  | digits => (Text.toNat? 10 digits).map Int.ofNat

/-- Whether a character marks an exponent. -/
def isExponentMark (c : Char) : Bool := c = 'e' || c = 'E'

/-- The size that a numeral without a sign stands for. -/
def parseSize? (t : Text) : Option Float :=
  let mantissa := t.takeWhile fun c => !isExponentMark c
  let exponent? : Option Int :=
    match t.dropWhile fun c => !isExponentMark c with
    | [] => some 0
    | _ :: digits => toInt? digits
  let whole := mantissa.takeWhile (· != '.')
  let fraction := (mantissa.dropWhile (· != '.')).drop 1
  exponent?.bind fun exponent => (ofParts? whole fraction exponent).map nearest

/-- The size that a word stands for. -/
def parseWord? (t : Text) : Option Float :=
  let word := t.map Char.toLower
  if word = "inf".toList ∨ word = "infinity".toList then some (1.0 / 0.0)
  else if word = "nan".toList then some (0.0 / 0.0)
  else none

/-- The number that a numeral stands for. -/
def parse? : Text → Option Float
  | '-' :: t => ((parseSize? t).or (parseWord? t)).map Neg.neg
  | '+' :: t => (parseSize? t).or (parseWord? t)
  | t => (parseSize? t).or (parseWord? t)

/-- A number cut to an integer between two others. What is no number counts as zero. -/
def truncate (low high : Int) (x : Float) : Int :=
  if x.isNaN then 0
  else if x.isInf then if x < 0 then low else high
  else
    let b := Binary.ofBits (x.toBits &&& 0x7fffffffffffffff)
    let size : Nat :=
      b.mantissa * Nat.pow 2 b.exponent.toNat / Nat.pow 2 (-b.exponent).toNat
    max low (min high (if x < 0 then -(size : Int) else size))

end PatchTrail.Decimal
