import PatchTrail.Template.Arithmetic
import PatchTrail.Template.Builtin.Arguments
import PatchTrail.Template.Value.Object
import PatchTrail.Unicode.Case

/-!
# Tests

A test takes a value, and perhaps further arguments, to a truth value.
-/

namespace PatchTrail.Template

namespace Test

/-- The names of the filters that there are. -/
def filterNames : List Text :=
  ["safe", "escape", "e", "lower", "upper", "title", "capitalize", "replace", "length", "count",
    "dictsort", "items", "reverse", "trim", "join", "split", "lines", "default", "d", "round",
    "abs", "int", "float", "attr", "first", "last", "min", "max", "sort", "list", "string", "bool",
    "batch", "slice", "sum", "indent", "select", "reject", "selectattr", "rejectattr", "map",
    "groupby", "unique", "chain", "zip", "format", "pprint"].map String.toList

/-- The names of the tests that there are. -/
def names : List Text :=
  ["undefined", "defined", "none", "safe", "escaped", "odd", "even", "divisibleby", "number",
    "integer", "int", "float", "string", "sequence", "mapping", "iterable", "boolean", "filter",
    "test", "startingwith", "endingwith", "lower", "upper", "sameas", "eq", "equalto", "==", "ne",
    "!=", "lt", "lessthan", "<", "le", "<=", "gt", "greaterthan", ">", "ge", ">=", "in", "true",
    "false"].map String.toList

/-- A test of one value. -/
def ofValue (p : Value → Bool) : Arguments Bool := return p (← Arguments.value)

/-- A test of two values. -/
def ofValues (p : Value → Value → Bool) : Arguments Bool := do
  let v ← Arguments.value
  return p v (← Arguments.value)

/-- A test of two texts. -/
def ofTexts (p : Text → Text → Bool) : Arguments Bool := do
  let t ← Arguments.text
  return p t (← Arguments.text)

/-- A test of a value that has to be a text. -/
def ofString (p : Text → Bool) : Arguments Bool := return p (← Arguments.required Value.asString)

/-- A test of the kind of a value. -/
def ofKind (kind : Text) : Arguments Bool := ofValue fun v => v.kind == kind

/-- A test of the order of two values. -/
def ofOrder (p : Ordering → Bool) : Arguments Bool := ofValues fun v w => p (v.compare w)

/-- Whether a value stands for an integer with a remainder on division by two. -/
def hasRemainder (r : Int) (v : Value) : Bool :=
  ((Pair.integerOf? v).map fun i => i % 2 == r).getD false

/-- Whether a value can be divided by another one. -/
def isDivisible (v w : Value) : Bool :=
  match Pair.of? false v w with
  | some (.integers i j) => j != 0 && i % j == 0
  | some (.decimals x y) => Decimal.remainder x y == 0.0
  | _ => false

/-- Whether a value is an integer. -/
def isInteger : Value → Bool
  | .integer _ => true
  | _ => false

/-- Whether a value is a decimal. -/
def isDecimal : Value → Bool
  | .decimal _ => true
  | _ => false

/-- Whether a value is one of the two truth values. -/
def isBoolean (b : Bool) : Value → Bool
  | .boolean b' => b' == b
  | _ => false

/-- Whether a value is in another one; nothing is in a value that holds nothing. -/
def isIn (v w : Value) : Bool := ((v.isIn w).toOption).getD false

/-- The test of a name. -/
def find? (name : Text) : Option (Arguments Bool) :=
  match String.ofList name with
  | "undefined" => some (ofValue Value.isUndefined)
  | "defined" => some (ofValue fun v => !v.isUndefined)
  | "none" => some (ofKind "none")
  | "safe" => some (ofValue Value.isSafe)
  | "escaped" => some (ofValue Value.isSafe)
  | "odd" => some (ofValue (hasRemainder 1))
  | "even" => some (ofValue (hasRemainder 0))
  | "divisibleby" => some (ofValues isDivisible)
  | "number" => some (ofKind "number")
  | "integer" => some (ofValue isInteger)
  | "int" => some (ofValue isInteger)
  | "float" => some (ofValue isDecimal)
  | "string" => some (ofKind "string")
  | "sequence" => some (ofKind "sequence")
  | "mapping" => some (ofKind "map")
  | "iterable" => some (ofValue fun v => v.items?.isSome)
  | "boolean" => some (ofKind "bool")
  | "filter" => some (ofString filterNames.contains)
  | "test" => some (ofString names.contains)
  | "startingwith" => some (ofTexts Text.startsWith)
  | "endingwith" => some (ofTexts Text.endsWith)
  | "lower" => some (ofString fun t => t.all Unicode.Case.isLower)
  | "upper" => some (ofString fun t => t.all Unicode.Case.isUpper)
  | "sameas" => some (ofValues Value.isSame)
  | "eq" => some (ofValues Value.equals)
  | "equalto" => some (ofValues Value.equals)
  | "==" => some (ofValues Value.equals)
  | "ne" => some (ofValues fun v w => !v.equals w)
  | "!=" => some (ofValues fun v w => !v.equals w)
  | "lt" => some (ofOrder (· == .lt))
  | "lessthan" => some (ofOrder (· == .lt))
  | "<" => some (ofOrder (· == .lt))
  | "le" => some (ofOrder (· != .gt))
  | "<=" => some (ofOrder (· != .gt))
  | "gt" => some (ofOrder (· == .gt))
  | "greaterthan" => some (ofOrder (· == .gt))
  | ">" => some (ofOrder (· == .gt))
  | "ge" => some (ofOrder (· != .lt))
  | ">=" => some (ofOrder (· != .lt))
  | "in" => some (ofValues isIn)
  | "true" => some (ofValue (isBoolean true))
  | "false" => some (ofValue (isBoolean false))
  | _ => none

end Test

end PatchTrail.Template
