import PatchTrail.Text.Blank
import PatchTrail.Text.Numeral
import PatchTrail.Width

/-!
# Resource ids

An id is a number of thirty-two bits. It is written in hexadecimal with `0x` in front, and read
also in decimal, in octal with `0o` or `0` in front, and in binary with `0b`. `Denotes` says which
texts are ways to write an id, by the grammar of its numerals.
-/

namespace PatchTrail.Resource

/-- The first number that is no id. -/
def idBound : Nat := Width.bound32

/-- The digits of an id and their base. -/
def digitsAndBase : Text → Text × Nat
  | '0' :: 'x' :: digits => (digits, 16)
  | '0' :: 'X' :: digits => (digits, 16)
  | '0' :: 'o' :: digits => (digits, 8)
  | '0' :: 'O' :: digits => (digits, 8)
  | '0' :: 'b' :: digits => (digits, 2)
  | '0' :: 'B' :: digits => (digits, 2)
  | '0' :: d :: digits => (d :: digits, 8)
  | digits => (digits, 10)

/-- The number of an id, between whatever blanks. -/
def parseId? (t : Text) : Option Nat :=
  let (digits, base) := digitsAndBase t.trim
  (Text.toNat? base digits).filter (· < idBound)

/-- An id as it is written. -/
def renderId (id : Nat) : Text := "0x" ++ Text.hexOfNat id

/-!
## The numerals of ids

The ways to write an id: a mark of the base and digits of that base, of which there is at least
one, and all blanks around them. A numeral in base ten does not begin with a zero unless that is
all of it.
-/

/-- The number of the digits of a numeral, the first of which counts most. -/
def valueOfDigits (base : Nat) (digits : List Nat) : Nat :=
  digits.foldl (fun value d => value * base + d) 0

/-- Some characters are digits of a base, with these values. -/
def AreDigits (base : Nat) (t : Text) (digits : List Nat) : Prop :=
  t.map digitValue? = digits.map some ∧ ∀ d ∈ digits, d < base

/-- A text without blanks around it is a numeral of a base with some digits. -/
inductive IsNumeral : Text → (base : Nat) → List Nat → Prop where
  | hexadecimal {mark : Char} {t : Text} {ds : List Nat} (marked : mark = 'x' ∨ mark = 'X')
      (digits : AreDigits 16 t ds) (some : ds ≠ []) : IsNumeral ('0' :: mark :: t) 16 ds
  | octal {mark : Char} {t : Text} {ds : List Nat} (marked : mark = 'o' ∨ mark = 'O')
      (digits : AreDigits 8 t ds) (some : ds ≠ []) : IsNumeral ('0' :: mark :: t) 8 ds
  | binary {mark : Char} {t : Text} {ds : List Nat} (marked : mark = 'b' ∨ mark = 'B')
      (digits : AreDigits 2 t ds) (some : ds ≠ []) : IsNumeral ('0' :: mark :: t) 2 ds
  | oldOctal {t : Text} {ds : List Nat} (digits : AreDigits 8 t ds) (some : ds ≠ []) :
      IsNumeral ('0' :: t) 8 ds
  | zero : IsNumeral ['0'] 10 [0]
  | decimal {t : Text} {ds : List Nat} (digits : AreDigits 10 t ds) (some : ds ≠ [])
      (leading : ds.head? ≠ Option.some 0) : IsNumeral t 10 ds

/-- A text is a way to write an id. -/
def Denotes (t : Text) (id : Nat) : Prop :=
  ∃ base ds, IsNumeral t.trim base ds ∧ valueOfDigits base ds = id ∧ id < idBound

end PatchTrail.Resource
