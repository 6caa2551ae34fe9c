import PatchTrail.Text.Blank

/-!
# Lines of a unit

A unit is a text of assembly for the Android virtual machine. Its structure shows in its lines: a
method begins on a line whose first field is `.method` and ends on one whose first two fields are
`.end` and `method`. The signature of a method is the last field of the line on which it begins.

A constant is declared on one line whose first field is `.field` and on which its identifier, a
name and a type with a colon between them, stands right before an equals sign.
-/

namespace PatchTrail.Smali

/-- What a line is for. -/
inductive LineKind where
  /-- A method with this signature begins. -/
  | methodStart (signature : Text)
  | methodEnd
  | content
deriving DecidableEq, Repr

/-- The field that a method begins with. -/
def methodField : Text := ".method"

/-- What a line with some fields is for. -/
def kindOfFields : List Text → LineKind
  | [] => .content
  | first :: rest =>
    if first = methodField then .methodStart (rest.getLast?.getD methodField)
    else if first = (".end" : Text) ∧ rest.head? = some ("method" : Text) then .methodEnd
    else .content

/-- What a line is for. -/
def kindOf (line : Text) : LineKind := kindOfFields line.fields

/-! ## Constants -/

/-- Whether an identifier stands right before an equals sign among some fields. -/
def assigns (identifier : Text) : List Text → Bool
  | a :: b :: rest => (a = identifier && b = ['=']) || assigns identifier (b :: rest)
  | _ => false

/-- Whether a line declares a constant. -/
def declares (line identifier : Text) : Bool :=
  let fields := line.fields
  fields.head? == some ".field".toList && assigns identifier fields

end PatchTrail.Smali
