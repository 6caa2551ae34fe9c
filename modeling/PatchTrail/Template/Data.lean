import PatchTrail.Json.Value
import PatchTrail.Template.Rendering

/-!
# Data for templates

What is rendered is given as a value of JSON.
-/

namespace PatchTrail.Template

mutual

/-- A value of JSON as a value of a template. -/
def Value.ofJson : Json.Value → Value
  | .null => .none
  | .boolean b => .boolean b
  | .number (.integer i) => .integer i
  | .number (.decimal x) => .decimal x
  | .string t => .ofText t
  | .array vs => .ofList (valuesOfJson vs)
  | .object members => Value.ofEntries (entriesOfJson members)

/-- The elements of an array as values of a template. -/
def valuesOfJson : List Json.Value → List Value
  | [] => []
  | v :: rest => Value.ofJson v :: valuesOfJson rest

/-- The members of an object as entries of a map. -/
def entriesOfJson : List (Text × Json.Value) → List (Value × Value)
  | [] => []
  | (name, v) :: rest => (.ofText name, Value.ofJson v) :: entriesOfJson rest

end

/-- The text of a template for data given as a value of JSON. -/
def renderJson (template : Text) (data : Json.Value) : Except Error Text :=
  render template (Value.ofJson data)

end PatchTrail.Template
