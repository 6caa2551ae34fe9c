import PatchTrail.Template.Builtin.Arguments
import PatchTrail.Template.Value.Basic

/-!
# Functions

The functions that every template knows. One of them makes a set of variables that can be changed
from everywhere; of this one only the first variables are computed here.
-/

namespace PatchTrail.Template

namespace Function

/-- How many numbers there are from one up to another, which is left out, if every `step`-th is
counted. -/
def rangeSize (start stop step : Int) : Nat :=
  if 0 < step then ((stop - start + step - 1) / step).toNat
  else ((start - stop - step - 1) / -step).toNat

/-- The numbers from one up to another, which is left out. -/
def numbers (start stop step : Int) : List Int :=
  (List.range (rangeSize start stop step)).map fun (i : Nat) => start + i * step

/-- How many numbers a list of numbers can have. -/
def maxRange : Nat := 100000

/-- A list of numbers from one up to another, which is left out. A single number is where the list
ends. -/
def range : Builtin := do
  let first ← Arguments.required Value.asOffset
  let second? ← Arguments.optional Value.asOffset
  let step? ← Arguments.optional Value.asOffset
  return do
    let (start, stop) := second?.elim (0, first) fun second => (first, second)
    let step := step?.getD 1
    if step = 0 then throw (.invalid "cannot create range with step of 0")
    if maxRange < rangeSize start stop step then throw (.invalid "range has too many elements")
    return .ofItems .counted ((numbers start stop step).map .integer)

/-- A map with the entries of another one and with named entries. -/
def dict : Builtin := do
  let named ← Arguments.named
  let v? ← Arguments.value?
  return match v? with
    | none => .ok (Value.ofEntries named)
    | some (.map _ _ entries) => .ok (Value.ofEntries (entries ++ named))
    | some _ => .error { kind := .invalidOperation }

/-- The sum of two integers of 64 bits, which wraps around. -/
def addInt : Builtin := .sure do
  let a ← Arguments.required Value.asInt64
  return .integer ((a + (← Arguments.required Value.asInt64)).bmod Width.bound64)

/-- Values on several lines. -/
def debug : Builtin := .sure do
  let v ← Arguments.value
  match ← Arguments.rest with
  | [] => return .ofText v.layout
  | vs => return .ofText (Value.ofList (v :: vs)).layout

/-- The function of a name, except for the one that makes variables. -/
def find? (name : Text) : Option Builtin :=
  match String.ofList name with
  | "range" => some range
  | "dict" => some dict
  | "add_int" => some addInt
  | "debug" => some debug
  | _ => none

/-- The name of the function that makes variables that can be changed from everywhere. -/
def namespaceName : Text := "namespace"

/-- Whether a name is that of a function. -/
def isKnown (name : Text) : Bool := name == namespaceName || (find? name).isSome

/-- The first variables of a set of them. -/
def namespaceEntries (vs : List Value) : Except Error (List (Value × Value)) := do
  match ← Arguments.readAll Arguments.value? vs with
  | none => return []
  | some (.map _ _ entries) => return entries.filter fun (k, _) => k.asText?.isSome
  | some v =>
    throw (.invalid ("expected object or keyword arguments, got " ++ v.kind))

end Function

end PatchTrail.Template
