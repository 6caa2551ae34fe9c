import PatchTrail.Text.Quoted

/-!
# Options of a command

The arguments of a command are options and operands. An option has a name, which is given behind
two dashes, and perhaps a letter, which is given behind one. The value of an option follows in the
same argument, behind an equals sign if the option was given by its name, or else is the next
argument, which then must not look like an option itself. Letters of options without a value can
share an argument. Behind an argument of two dashes all others are operands.
-/

namespace PatchTrail.Command

/-- An option that a command knows. -/
structure Switch where
  name : Text
  letter? : Option Char := none
  takesValue : Bool := false
  isRepeatable : Bool := false
deriving DecidableEq, Repr

/-- What a command was given: an option with its value, which is empty for an option without one,
or an operand. -/
inductive Item where
  | option (name value : Text)
  | operand (t : Text)
deriving DecidableEq, Repr

/-- Why the arguments of a command make no sense. -/
inductive UsageError where
  | unknownOption (given : Text)
  | missingValue (name : Text)
  | unexpectedValue (name : Text)
  | badValue (name value : Text)
  | repeated (name : Text)
  | missingOption (name : Text)
  | missingOperand (name : Text)
  | unexpectedOperand (given : Text)
  | missingCommand
  | unknownCommand (given : Text)
deriving DecidableEq, Repr

/-- What is wrong with the arguments, in words. -/
def UsageError.message : UsageError → Text
  | unknownOption given => "unknown option " ++ given.quoted
  | missingValue name => "option --" ++ name ++ " needs a value"
  | unexpectedValue name => "option --" ++ name ++ " takes no value"
  | badValue name value => value.quoted ++ " is no value for " ++ name
  | repeated name => "option --" ++ name ++ " is given more than once"
  | missingOption name => "option --" ++ name ++ " is missing"
  | missingOperand name => name ++ " is missing"
  | unexpectedOperand given => "nothing is known about " ++ given.quoted
  | missingCommand => "a command is missing"
  | unknownCommand given => "unknown command " ++ given.quoted

/-- What an argument of options says, and the option whose value has to follow if there is one. -/
structure Reading where
  items : List Item
  open? : Option Switch

/-- Reads the name of an option and the value that may follow it. -/
def readName (known : List Switch) (t : Text) : Except UsageError Reading :=
  let name := t.takeWhile (· != '=')
  match known.find? fun s => s.name == name with
  | none => .error (.unknownOption name)
  | some s =>
    match t.dropWhile (· != '=') with
    | [] => if s.takesValue then .ok ⟨[], some s⟩ else .ok ⟨[.option s.name []], none⟩
    | _ :: value =>
      if s.takesValue then .ok ⟨[.option s.name value], none⟩ else .error (.unexpectedValue s.name)

/-- Reads letters of options, the last of which may be followed by a value. -/
def readLetters (known : List Switch) : Text → Except UsageError Reading
  | [] => .ok ⟨[], none⟩
  | c :: rest =>
    match known.find? fun s => s.letter? == some c with
    | none => .error (.unknownOption [c])
    | some s =>
      if s.takesValue then
        match rest with
        | [] => .ok ⟨[], some s⟩
        | '=' :: value => .ok ⟨[.option s.name value], none⟩
        | value => .ok ⟨[.option s.name value], none⟩
      else (readLetters known rest).map fun r => ⟨.option s.name [] :: r.items, r.open?⟩

/-- Reads arguments, the first of which has to be the value of an option if one is open. -/
def readItems (known : List Switch) :
    (open? : Option Switch) → List Text → Except UsageError (List Item)
  | none, [] => .ok []
  | some s, [] => .error (.missingValue s.name)
  | open?, arg :: rest =>
    let options (reading : Except UsageError Reading) : Except UsageError (List Item) :=
      match open? with
      | some s => .error (.missingValue s.name)
      | none => do
        let r ← reading
        return r.items ++ (← readItems known r.open? rest)
    match arg with
    | ['-', '-'] =>
      match open? with
      | some s => .error (.missingValue s.name)
      | none => .ok (rest.map .operand)
    | '-' :: '-' :: name => options (readName known name)
    | '-' :: c :: letters => options (readLetters known (c :: letters))
    | _ => do
      let item := match open? with
        | some s => .option s.name arg
        | none => .operand arg
      return item :: (← readItems known none rest)

/-- The values given for an option, in order. -/
def valuesOf (name : Text) (items : List Item) : List Text :=
  items.filterMap fun
    | .option other value => if other = name then some value else none
    | .operand _ => none

/-- The operands, in order. -/
def operandsOf (items : List Item) : List Text :=
  items.filterMap fun
    | .option _ _ => none
    | .operand t => some t

/-- Refuses options that are given more than once without being made for it. -/
def checkRepeated (known : List Switch) (items : List Item) : Except UsageError Unit :=
  match known.find? fun s => !s.isRepeatable && 1 < (valuesOf s.name items).length with
  | some s => .error (.repeated s.name)
  | none => .ok ()

end PatchTrail.Command
