/-!
# Widths of numbers

Numbers that are kept in words have a width in bits, with a sign or without one.
-/

namespace PatchTrail.Width

/-- The first number that has more than thirty-two bits. -/
abbrev bound32 : Nat := 0x100000000

/-- The first number that has more than sixty-four bits. -/
abbrev bound64 : Nat := 0x10000000000000000

/-- The first number that has more than 128 bits. -/
abbrev bound128 : Nat := 0x100000000000000000000000000000000

/-- The first number that has more than thirty-two bits with its sign. -/
abbrev half32 : Nat := 0x80000000

/-- The first number that has more than sixty-four bits with its sign. -/
abbrev half64 : Nat := 0x8000000000000000

/-- The first number that has more than 128 bits with its sign. -/
abbrev half128 : Nat := 0x80000000000000000000000000000000

/-- Whether an integer has no more bits with its sign than those below a bound. -/
def fits (half : Nat) (i : Int) : Bool := decide (-(half : Int) ≤ i) && decide (i < (half : Int))

end PatchTrail.Width
