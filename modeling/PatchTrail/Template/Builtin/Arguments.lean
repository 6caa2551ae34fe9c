import PatchTrail.Template.Value.Order

/-!
# Arguments of builtin filters, tests and functions

A builtin first reads all of its arguments, one after the other, and only then computes anything:
an argument that is missing, of the wrong kind or too many is reported before any other error.
Named arguments come last, together in one map.
-/

namespace PatchTrail.Template

/-- Reads arguments from the left. -/
abbrev Arguments := StateT (List Value) (Except Error)

/-- Reads all arguments and says what is computed from them. -/
abbrev Builtin := Arguments (Except Error Value)

/-! ## Conversions -/

namespace Value

/-- A value as a text. -/
def asText : Value → Except Error Text
  | map _ .arguments _ => .error (.invalid "cannot convert kwargs to string")
  | v => .ok v.display

/-- The text that a value has to be. -/
def asString (v : Value) : Except Error Text :=
  match v.asText? with
  | some t => .ok t
  | Option.none => .error (.invalid "value is not a string")

/-- The truth value that a value has to be. -/
def asBoolean : Value → Except Error Bool
  | boolean b => .ok b
  | v => .error (.invalid ("cannot convert " ++ v.kind ++ " to bool"))

/-- The integer of 32 bits that a value stands for. -/
def asInt32 (v : Value) : Except Error Int :=
  v.asInteger "i32" (-(Width.half32 : Int)) (Width.half32 - 1 : Int)

/-- The distance of 64 bits that a value stands for. -/
def asOffset (v : Value) : Except Error Int :=
  v.asInteger "isize" (-(Width.half64 : Int)) (Width.half64 - 1 : Int)

/-- A value as a text, and whether it is a safe one. -/
def asMarkedText (v : Value) : Except Error (Text × Bool) := do return (← v.asText, v.isSafe)

end Value

/-! ## Named arguments -/

/-- Named arguments in the order of their names. -/
abbrev Named := List (Value × Value)

/-- Splits arguments into those without and those with a name. -/
def splitNamed (vs : List Value) : List Value × Named :=
  match vs.getLast? with
  | some (.map _ .arguments entries) => (vs.dropLast, entries)
  | _ => (vs, [])

namespace Named

variable {α : Type}

/-- A named argument that may be left out. -/
def optional (named : Named) (name : Text) (convert : Value → Except Error α) :
    Except Error (Option α) :=
  match Value.lookup? (.ofText name) named with
  | some v => if v.isMissing then .ok none else (convert v).map some
  | none => .ok none

/-- Whether a named argument is there and true. -/
def isSet (named : Named) (name : Text) : Except Error Bool := do
  return (← named.optional name Value.asBoolean).getD false

/-- Refuses named arguments with other names than some. -/
def only (named : Named) (names : List Text) : Except Error Unit :=
  match (named.filterMap fun (k, _) => k.asText?).find? fun name => !names.contains name with
  | some name =>
    .error
      { kind := .tooManyArguments
        detail? := some ("unknown keyword argument '" ++ name ++ "'") }
  | none => .ok ()

end Named

/-! ## Reading -/

namespace Arguments

variable {α : Type}

/-- The next argument, if there is one. -/
def next? : Arguments (Option Value) := fun vs => .ok (vs.head?, vs.tail)

/-- The next argument, which has to be there. -/
def required (convert : Value → Except Error α) : Arguments α := do
  match ← next? with
  | some v => convert v
  | none => throw { kind := .missingArgument }

/-- The next argument, which may be missing, undefined or nothing. -/
def optional (convert : Value → Except Error α) : Arguments (Option α) := do
  match ← next? with
  | some v => if v.isMissing then return none else return some (← convert v)
  | none => return none

/-- The next argument as it is. -/
def value : Arguments Value := required .ok

/-- The next argument as a text. -/
def text : Arguments Text := required Value.asText

/-- The next argument as a text, and whether it is a safe one. -/
def markedText : Arguments (Text × Bool) := required Value.asMarkedText

/-- The next argument as it is, if it is there. -/
def value? : Arguments (Option Value) := optional .ok

/-- The next argument as a text, if it is there. -/
def text? : Arguments (Option Text) := optional Value.asText

/-- The next argument as a truth value, if it is there. -/
def boolean? : Arguments (Option Bool) := optional Value.asBoolean

/-- All arguments that are left. -/
def rest : Arguments (List Value) := fun vs => .ok (vs, [])

/-- The named arguments, which come behind all others. -/
def named : Arguments Named := fun vs =>
  let (vs, named) := splitNamed vs
  .ok (named, vs)

/-- Reads arguments, of which none may be left. -/
def readAll (r : Arguments α) (vs : List Value) : Except Error α := do
  match ← r vs with
  | (a, []) => return a
  | (_, _ :: _) => throw { kind := .tooManyArguments }

end Arguments

/-- What a builtin computes from arguments. -/
def Builtin.apply (b : Builtin) (vs : List Value) : Except Error Value := do
  (← Arguments.readAll b vs)

/-- A builtin that cannot fail once it has its arguments. -/
def Builtin.sure (r : Arguments Value) : Builtin := do return .ok (← r)

end PatchTrail.Template
