import PatchTrail.Text.Basic

/-!
# Numerals

Natural numbers written with digits in a base of at most sixteen, and read back. A numeral that is
read may have leading zeros and digits of either case, and has no sign.
-/

namespace PatchTrail

/-- The value of a digit in some base up to thirty-six. -/
def digitValue? (c : Char) : Option Nat :=
  let n := c.toNat
  if 48 ≤ n ∧ n ≤ 57 then some (n - 48)
  else if 97 ≤ n ∧ n ≤ 122 then some (n - 87)
  else if 65 ≤ n ∧ n ≤ 90 then some (n - 55)
  else none

namespace Text

/-- The decimal numeral of a number. -/
def ofNat (n : Nat) : Text := Nat.toDigits 10 n

/-- The hexadecimal numeral of a number, with small letters and no leading zero. -/
def hexOfNat (n : Nat) : Text := Nat.toDigits 16 n

/-- The decimal numeral of an integer, with a minus sign if it is negative. -/
def ofInt (i : Int) : Text := if i < 0 then '-' :: ofNat i.natAbs else ofNat i.natAbs

/-- Reads digits in a base from the left, starting with a value already read. -/
def readDigits (base : Nat) : Text → Nat → Option Nat
  | [], value => some value
  | c :: rest, value =>
    match digitValue? c with
    | some d => if d < base then readDigits base rest (value * base + d) else none
    | none => none

/-- The number that a numeral stands for in a base; the empty text is no numeral. -/
def toNat? (base : Nat) (t : Text) : Option Nat :=
  if t = [] then none else readDigits base t 0

end Text

end PatchTrail
