import PatchTrail.Decimal.Rounding
import PatchTrail.Template.Builtin.Arguments
import PatchTrail.Template.Value.Basic

/-!
# Filling in a format

A format is text with specifications in it, each of which begins with a percent sign and says how a
value is written: a name in parentheses, flags, a width, a precision, and a letter for the kind of
writing. A specification with a name takes its value from a map, which is the first of the
arguments; every other takes the next argument. Specifications are worked through one after the
other, and the first that is not possible is reported (`FormatFault`).
-/

namespace PatchTrail.Template

/-! ## Errors -/

/-- Why a format cannot be filled in. Positions are counted in bytes. -/
inductive FormatFault where
  /-- The name that begins at a position does not end. -/
  | openName (position : Nat)
  /-- The specification that begins at a position has no letter. -/
  | noLetter (position : Nat)
  | unknownLetter (letter : Char) (position : Nat)
  | noArgument (position : Nat)
  /-- A value of a kind cannot be written in a way that a letter stands for. -/
  | unwritable (kind way : Text) (letter : Char) (position : Nat)
  /-- There is a name, but the first argument is no map. -/
  | noMap

/-- A fault in words. -/
def FormatFault.detail : FormatFault → Text
  | openName p =>
    "incomplete format key at offset " ++ Text.ofNat p ++ "; missing closing ')'"
  | noLetter p =>
    "incomplete format spec at offset " ++ Text.ofNat p ++ "; missing conversion type"
  | unknownLetter c p =>
    "invalid conversion type '" ++ [c] ++ "' in format spec at offset " ++ Text.ofNat p
  | noArgument p => "missing an argument for format spec at offset '" ++ Text.ofNat p ++ "'"
  | unwritable kind way c p =>
    "invalid format spec at offset " ++ Text.ofNat p ++ "; '" ++ kind ++ "' cannot be formatted in "
      ++ way ++ " format ('" ++ [c] ++ "')"
  | noMap => "format argument must be a mapping"

/-- Fails with a fault. -/
def FormatFault.fail {α : Type} (f : FormatFault) : Except Error α := .error (.invalid f.detail)

/-! ## Specifications -/

/-- The ways of writing a value. -/
inductive Writing where
  | plain
  | quoted
  | character
  | decimal
  | octal
  | hexadecimal (isUpper : Bool)
  | fixed
  | scientific (isUpper : Bool)
  | general (isUpper : Bool)
deriving DecidableEq, Repr

/-- The way of writing that a letter stands for. -/
def Writing.ofLetter? (c : Char) : Option Writing :=
  if c = 's' then some plain
  else if c = 'r' then some quoted
  else if c = 'c' then some character
  else if c = 'd' ∨ c = 'i' ∨ c = 'u' then some decimal
  else if c = 'o' then some octal
  else if c = 'x' then some (hexadecimal false)
  else if c = 'X' then some (hexadecimal true)
  else if c = 'f' ∨ c = 'F' then some fixed
  else if c = 'e' then some (scientific false)
  else if c = 'E' then some (scientific true)
  else if c = 'g' then some (general false)
  else if c = 'G' then some (general true)
  else none

/-- A way of writing in words. -/
def Writing.name : Writing → Text
  | plain => "string"
  | quoted => "string"
  | character => "character"
  | decimal => "decimal"
  | octal => "octal"
  | hexadecimal _ => "hexadecimal"
  | fixed => "floating point"
  | scientific _ => "floating point"
  | general _ => "floating point"

/-- A specification behind its percent sign. -/
structure Specification where
  name? : Option Text
  flags : List Char
  width : Nat
  precision? : Option Nat
  writing : Writing
  letter : Char
  /-- Where the specification begins behind the percent sign and the name. -/
  position : Nat

/-- Whether a character is a flag. -/
def isFlag (c : Char) : Bool := ['-', '+', ' ', '0', '#'].contains c

/-- The number at the beginning of a text, zero if there is none. -/
def leadingNumber (t : Text) : Nat × Text :=
  ((Text.toNat? 10 (t.takeWhile Char.isDigit)).getD 0, t.dropWhile Char.isDigit)

/-- Reads a name in parentheses off a text at a position, if it begins with one. -/
def readName? (position : Nat) (t : Text) : Except Error (Option Text × Text) :=
  match t with
  | '(' :: rest =>
    match Text.cut? [')'] rest with
    | some (name, after) => .ok (some name, after)
    | none => (FormatFault.openName (position + 1)).fail
  | t => .ok (none, t)

/-- Reads a precision off a text, if it begins with one. -/
def readPrecision? (t : Text) : Option Nat × Text :=
  match t with
  | '.' :: rest => let (n, after) := leadingNumber rest; (some n, after)
  | t => (none, t)

/-- Reads a specification off a text at a position. -/
def readSpecification (position : Nat) (t : Text) : Except Error (Specification × Text) := do
  let (name?, rest) ← readName? position t
  let position := position + (Text.size t - Text.size rest)
  let flags := rest.takeWhile isFlag
  let (width, rest) := leadingNumber (rest.dropWhile isFlag)
  let (precision?, rest) := readPrecision? rest
  match rest with
  | [] => (FormatFault.noLetter position).fail
  | letter :: rest =>
    match Writing.ofLetter? letter with
    | some writing =>
      return (⟨name?, flags, width, precision?, writing, letter, position⟩, rest)
    | none => (FormatFault.unknownLetter letter position).fail

/-! ## Writing -/

namespace Specification

/-- Whether a specification has a flag. -/
def has (s : Specification) (flag : Char) : Bool := s.flags.contains flag

/-- A text filled up with blanks to the width, on the left unless there is a flag for the right. The
width is counted in bytes. -/
def padded (s : Specification) (t : Text) : Text :=
  let blanks := List.replicate (s.width - Text.size t) ' '
  if s.has '-' then t ++ blanks else blanks ++ t

/-- The sign of a number. -/
def sign (s : Specification) (isNegative : Bool) : Text :=
  if isNegative then "-" else if s.has '+' then "+" else if s.has ' ' then " " else ""

/-- A number filled up to the width, with zeros behind its sign and mark if there is a flag for
them. -/
def paddedNumber (s : Specification) (front digits : Text) : Text :=
  if s.has '0' && !s.has '-' then
    front ++ List.replicate (s.width - front.length - digits.length) '0' ++ digits
  else s.padded (front ++ digits)

/-- An integer with digits in a base, behind a mark if there is a flag for it. -/
def integer (s : Specification) (base : Nat) (mark : Text) (isUpper : Bool) (i : Int) : Text :=
  let digits := Nat.toDigits base i.natAbs
  let digits := List.replicate (s.precision?.getD 0 - digits.length) '0' ++ digits
  let upper (t : Text) : Text := if isUpper then t.map Char.toUpper else t
  s.paddedNumber (s.sign (i < 0) ++ if s.has '#' then upper mark else []) (upper digits)

/-- How many places a decimal has if nothing is said. -/
def usualPlaces : Nat := 6

/-- A decimal, of which the size is written in a way. -/
def decimal (s : Specification) (write : Nat → Decimal.Binary → Text) (isUpper : Bool)
    (x : Float) : Text :=
  let word (t : Text) : Text := if isUpper then t.map Char.toUpper else t
  if x.isNaN then s.padded (s.sign false ++ word "nan")
  else
    let front := s.sign (Decimal.isNegative x)
    if x.isInf then s.padded (front ++ word "inf")
    else s.paddedNumber front (write (s.precision?.getD usualPlaces) (Decimal.sizeOf x))

/-- The character that a value stands for: a text of one character, or its number. -/
def character? (v : Value) : Option Text :=
  match v with
  | .text [c] _ => some [c]
  | .text _ _ => none
  | .decimal _ => none
  | v => (v.wholeNumber?.filter fun i => decide (0 ≤ i) && i.toNat.isValidChar).map fun i =>
    [Char.ofNat i.toNat]

/-- The kind of a value in words. -/
def kindOf (v : Value) : Text :=
  match v with
  | .decimal _ => "float"
  | v => v.kind

/-- A value in the way that a specification asks for. What is no number is escaped if the format is
safe. -/
def render (s : Specification) (isSafe : Bool) (v : Value) : Except Error Text :=
  let shortened (t : Text) : Text := s.padded (s.precision?.elim t t.take)
  let refused : Except Error Text :=
    (FormatFault.unwritable (kindOf v) s.writing.name s.letter s.position).fail
  let onInteger (f : Int → Text) : Except Error Text :=
    match v with
    | .decimal _ => refused
    | v => v.wholeNumber?.elim refused fun i => .ok (f i)
  let onDecimal (f : Float → Text) : Except Error Text :=
    v.asDecimal?.elim refused fun x => .ok (f x)
  match s.writing with
  | .plain => .ok (shortened (if isSafe then v.escaped else v.display))
  | .quoted => .ok (shortened (if isSafe then escape v.describe else v.describe))
  | .character => (character? v).elim refused fun t => .ok (s.padded t)
  | .decimal => onInteger (s.integer 10 [] false)
  | .octal => onInteger (s.integer 8 "0o" false)
  | .hexadecimal isUpper => onInteger (s.integer 16 "0x" isUpper)
  | .fixed => onDecimal (s.decimal Decimal.Binary.fixed (s.letter = 'F'))
  | .scientific isUpper =>
    let mark := if isUpper then 'E' else 'e'
    onDecimal (s.decimal (fun places x => x.scientific places mark) isUpper)
  | .general isUpper =>
    let mark := if isUpper then 'E' else 'e'
    onDecimal (s.decimal (fun size x => x.general size mark (s.has '#')) isUpper)

end Specification

/-- The entry of a name in the map that is the first of some arguments. -/
def namedArgument (arguments : List Value) (name : Text) (position : Nat) : Except Error Value :=
  match arguments with
  | .map _ _ entries :: _ =>
    match Value.lookup? (.ofText name) entries with
    | some v => .ok v
    | none => (FormatFault.noArgument position).fail
  | _ => FormatFault.noMap.fail

/-- A format with its specifications filled in, at most `bound` characters of it, from a position
on and with the arguments that are left. -/
def fillFormat (isSafe : Bool) (arguments : List Value) :
    (bound position : Nat) → (left : List Value) → Text → Except Error Text
  | 0, _, _, _ => .ok []
  | _, _, _, [] => .ok []
  | bound + 1, position, left, '%' :: '%' :: rest => do
    return '%' :: (← fillFormat isSafe arguments bound (position + 2) left rest)
  | bound + 1, position, left, '%' :: rest => do
    let (s, after) ← readSpecification (position + 1) rest
    let (v, left) ←
      match s.name?, left with
      | some name, left => pure (← namedArgument arguments name s.position, left)
      | none, v :: left => pure (v, left)
      | none, [] => (FormatFault.noArgument s.position).fail
    let t ← s.render isSafe v
    let position := position + 1 + (Text.size rest - Text.size after)
    return t ++ (← fillFormat isSafe arguments bound position left after)
  | bound + 1, position, left, c :: rest => do
    return c :: (← fillFormat isSafe arguments bound (position + c.utf8Size) left rest)

namespace Filter

/-- A format with its specifications filled in. A safe format stays safe. -/
def format : Builtin := do
  let v ← Arguments.value
  let t ← v.asString
  let arguments ← Arguments.rest
  return do
    return .text (← fillFormat v.isSafe arguments t.length 0 arguments t) v.isSafe

end Filter

end PatchTrail.Template
