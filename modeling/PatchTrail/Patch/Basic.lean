import PatchTrail.Instruction.Basic

/-!
# Patches

A patch is a named list of instructions that together make up one feature. It fails with the
position of the instruction that failed.
-/

namespace PatchTrail

/-- A feature: a name and the instructions that bring it about. -/
structure Patch where
  name : Text
  instructions : List Instruction

namespace Patch

/-- Why a patch fails: the instruction at a position failed. -/
structure Error where
  patch : Text
  index : Nat
  cause : Instruction.Error
deriving DecidableEq, Repr

/-- Why a patch fails, in words. -/
def Error.message (e : Error) : Text :=
  "apply patch " ++ e.patch.quoted ++ ": inst " ++ Text.ofNat e.index ++ ": " ++ e.cause.message

/-- A failure shown part by part. -/
def Error.describe (e : Error) : Text :=
  Text.describeFields "Instruction"
    [("patch", e.patch.quoted), ("index", Text.ofNat e.index), ("source", e.cause.describe)]

/-- Follows instructions of a patch, the first of which stands at a position. -/
def applyFrom (name : Text) (index : Nat) : List Instruction → Change Error Unit
  | [] => return ()
  | i :: rest => do
    i.apply.adaptExcept fun cause => ⟨name, index, cause⟩
    applyFrom name (index + 1) rest

/-- Follows the instructions of a patch up to the first that fails. -/
def apply (p : Patch) : Change Error Unit := applyFrom p.name 0 p.instructions

/-- The names of the kinds of a patch's instructions. -/
def instructionNames (p : Patch) : List Text := p.instructions.map Instruction.name

end Patch

end PatchTrail
