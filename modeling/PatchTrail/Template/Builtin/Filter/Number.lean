import PatchTrail.Template.Arithmetic
import PatchTrail.Template.Builtin.Arguments

/-!
# Filters on numbers
-/

namespace PatchTrail.Template

/-- Why a text is no number. -/
def notADecimal (t : Text) : Error :=
  .invalid (if t.isEmpty then "cannot parse float from empty string" else "invalid float literal")

/-- A decimal cut to an integer of 128 bits. -/
def cutTo128 (x : Float) : Int :=
  Decimal.truncate (-(Width.half128 : Int)) (Width.half128 - 1 : Int) x

/-- A decimal with some digits behind the point, where a half goes away from zero. -/
def roundTo (digits : Int) (x : Float) : Float :=
  let scale := Float.pow 10.0 (Float.ofInt digits)
  (scale * x).round / scale

namespace Value

/-- A value without its sign. -/
def absolute : Value → Except Error Value
  | integer i =>
    if i = -(Width.half128 : Int) then .error (.invalid "overflow on abs")
    else .ok (.integer i.natAbs)
  | decimal x => .ok (.decimal x.abs)
  | _ => .error (.invalid "cannot get absolute value")

/-- A value as an integer, cut if it is a decimal. -/
def toInteger : Value → Except Error Value
  | undefined => .ok (.integer 0)
  | none => .ok (.integer 0)
  | boolean b => .ok (.integer (if b then 1 else 0))
  | integer i => .ok (.integer i)
  | decimal x => .ok (.integer (cutTo128 x))
  | text t _ =>
    match (Decimal.toInt? t).filter (Width.fits Width.half128), Decimal.parse? t with
    | some i, _ => .ok (.integer i)
    | _, some x => .ok (.integer (cutTo128 x))
    | _, _ => .error (notADecimal t)
  | v => .error (.invalid ("cannot convert " ++ v.kind ++ " to integer"))

/-- A value as a decimal. -/
def toDecimal : Value → Except Error Value
  | undefined => .ok (.decimal 0.0)
  | none => .ok (.decimal 0.0)
  | text t _ =>
    match Decimal.parse? t with
    | some x => .ok (.decimal x)
    | Option.none => .error (notADecimal t)
  | v =>
    match v.asDecimal? with
    | some x => .ok (.decimal x)
    | Option.none => .error (.invalid ("cannot convert " ++ v.kind ++ " to float"))

/-- A value with some digits behind the point. -/
def rounded (digits : Int) : Value → Except Error Value
  | integer i => .ok (.integer i)
  | decimal x => .ok (.decimal (roundTo digits x))
  | v => .error (.invalid ("cannot round value (" ++ v.kind ++ ")"))

/-- The sum of some values, of which those that are undefined do not count. -/
def sum (vs : List Value) : Except Error Value :=
  vs.foldlM
    (fun total v =>
      match v with
      | undefined => .ok total
      | integer _ => total.add v
      | decimal _ => total.add v
      | v => .error (.invalid ("can only sum numbers, got " ++ v.kind)))
    (.integer 0)

end Value

namespace Filter

/-- A filter that takes one value. -/
def onValue (f : Value → Except Error Value) : Builtin := do return f (← Arguments.value)

/-- A value with some digits behind the point, none if nothing is said. -/
def round : Builtin := do
  let v ← Arguments.value
  let digits? ← Arguments.optional Value.asInt32
  return v.rounded (digits?.getD 0)

/-- The sum of the items of a value. -/
def sum : Builtin := onValue fun v => do Value.sum (← v.items)

end Filter

end PatchTrail.Template
