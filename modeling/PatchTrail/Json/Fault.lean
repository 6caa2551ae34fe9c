import PatchTrail.Decimal.Numeral
import PatchTrail.Json.Value
import PatchTrail.Text.Quoted

/-!
# What is wrong with a document

A document can be malformed, or well-formed and not of the shape that was asked for. Most faults
are known together with a place in the document; `Error.message` mentions the place, if there is
one, after what is wrong.
-/

namespace PatchTrail.Json

/-- Why a document is not JSON. -/
inductive Malformed where
  | endInValue
  | endInArray
  | endInObject
  | endInString
  | noColon
  | noArraySeparator
  | noObjectSeparator
  | noWord
  | noValue
  | trailingComma
  | trailingCharacters
  | nameNotString
  | badNumber
  | numberOutOfRange
  | badEscape
  | loneSurrogate
  | unfinishedSurrogate
  | controlCharacter
  | tooDeep
deriving DecidableEq, Repr

/-- What is wrong, in words. -/
def Malformed.message : Malformed → Text
  | endInValue => "EOF while parsing a value"
  | endInArray => "EOF while parsing a list"
  | endInObject => "EOF while parsing an object"
  | endInString => "EOF while parsing a string"
  | noColon => "expected `:`"
  | noArraySeparator => "expected `,` or `]`"
  | noObjectSeparator => "expected `,` or `\x7d`"
  | noWord => "expected ident"
  | noValue => "expected value"
  | trailingComma => "trailing comma"
  | trailingCharacters => "trailing characters"
  | nameNotString => "key must be a string"
  | badNumber => "invalid number"
  | numberOutOfRange => "number out of range"
  | badEscape => "invalid escape"
  | loneSurrogate => "lone leading surrogate in hex escape"
  | unfinishedSurrogate => "unexpected end of hex escape"
  | controlCharacter => "control character (\\u0000-\\u001F) found while parsing a string"
  | tooDeep => "recursion limit exceeded"

/-- What stands where something else was asked for. -/
inductive Found where
  | null
  | boolean (b : Bool)
  | number (n : Number)
  | string (t : Text)
  | array
  | object

/-- What a value is, without its parts. -/
def Value.found : Value → Found
  | .null => .null
  | .boolean b => .boolean b
  | .number n => .number n
  | .string t => .string t
  | .array _ => .array
  | .object _ => .object

/-- How numbers of double precision are shown: around a point from `10^-5` up to `10^16`. -/
def floatLayout : Decimal.Layout := ⟨some (-5), some 16, true⟩

/-- What was found, in words. -/
def Found.describe : Found → Text
  | null => "null"
  | boolean b => "boolean `" ++ (if b then "true" else "false" : Text) ++ "`"
  | number (.integer i) => "integer `" ++ Text.ofInt i ++ "`"
  | number (.decimal x) => "floating point `" ++ floatLayout.renderFloat x ++ "`"
  | string t => "string " ++ t.quoted
  | array => "sequence"
  | object => "map"

/-- Why a document does not have the shape that was asked for. -/
inductive Mismatch where
  /-- A value of the wrong kind. -/
  | wrongKind (found : Found) (expected : Text)
  /-- A value of the right kind that is out of bounds. -/
  | wrongValue (found : Found) (expected : Text)
  /-- An array of the wrong length. -/
  | wrongLength (length : Nat) (expected : Text)
  | unknownTag (name : Text) (known : List Text)
  | missingMember (name : Text)
  | duplicateMember (name : Text)
  /-- A text that is refused for a reason of its own. -/
  | refused (reason : Text)

/-- A name between backticks. -/
def ticked (name : Text) : Text := '`' :: (name ++ ['`'])

/-- What is wrong, in words. -/
def Mismatch.message : Mismatch → Text
  | wrongKind found expected => "invalid type: " ++ found.describe ++ ", expected " ++ expected
  | wrongValue found expected => "invalid value: " ++ found.describe ++ ", expected " ++ expected
  | wrongLength length expected =>
    "invalid length " ++ Text.ofNat length ++ ", expected " ++ expected
  | unknownTag name known =>
    "unknown variant " ++ ticked name ++ ", expected one of "
      ++ Text.join ", " (known.map ticked)
  | missingMember name => "missing field " ++ ticked name
  | duplicateMember name => "duplicate field " ++ ticked name
  | refused reason => reason

/-- What is wrong with a document. -/
inductive Problem where
  | malformed (m : Malformed)
  | mismatch (m : Mismatch)

/-- What is wrong, in words. -/
def Problem.message : Problem → Text
  | malformed m => m.message
  | mismatch m => m.message

/-! ## Places -/

/-- A place in a document: its line, counted from one, and the number of bytes of that line that
stand before it. -/
structure Place where
  line : Nat
  column : Nat
deriving DecidableEq, Repr

/-- Walks over the characters that begin within the next `bytes` bytes. -/
def Place.advance : Text → (bytes : Nat) → Place → Place
  | [], _, p => p
  | c :: rest, bytes, p =>
    if bytes = 0 then p
    else if c = '\n' then advance rest (bytes - 1) ⟨p.line + 1, 0⟩
    else advance rest (bytes - c.utf8Size) ⟨p.line, p.column + min bytes c.utf8Size⟩

/-- The place in a document before which all but `left` bytes stand. -/
def Place.before (document : Text) (left : Nat) : Place :=
  advance document (document.size - left) ⟨1, 0⟩

/-- A problem, and where it lies if that is known. -/
structure Error where
  problem : Problem
  place? : Option Place

/-- What is wrong and where, in words. -/
def Error.message (e : Error) : Text :=
  match e.place? with
  | none => e.problem.message
  | some p =>
    e.problem.message ++ " at line " ++ Text.ofNat p.line ++ " column " ++ Text.ofNat p.column

/-- The parts of an error one by one; an unknown place has line and column zero. -/
def Error.describe (e : Error) : Text :=
  let p := e.place?.getD ⟨0, 0⟩
  "Error(" ++ e.problem.message.quoted ++ ", line: " ++ Text.ofNat p.line ++ ", column: "
    ++ Text.ofNat p.column ++ ")"

end PatchTrail.Json
