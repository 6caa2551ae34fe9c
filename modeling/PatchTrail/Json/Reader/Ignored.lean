import PatchTrail.Json.Reader.Value

/-!
# Passing over values

The value of a member that is not asked for is passed over. It has to be well-formed, but its depth
is not bounded, its numbers may be of any size, and surrogates need not come in pairs.
-/

namespace PatchTrail.Json.Reader

/-- Passes over a text behind its opening quote. -/
def skipQuoted : Text → Except Fault (Unit × Text)
  | [] => .error (faultAt .endInString 0)
  | '"' :: rest => .ok ((), rest)
  | '\\' :: rest =>
    match rest with
    | [] => .error (faultAt .endInString 0)
    | 'u' :: a :: b :: c :: d :: more =>
      match unit? a b c d with
      | none => .error (badUnit (a :: b :: c :: d :: more))
      | some _ => skipQuoted more
    | 'u' :: more => .error (badUnit more)
    | e :: more =>
      match shortEscape? e with
      | some _ => skipQuoted more
      | none => .error (faultAt .badEscape (Text.size (e :: more) - 1))
  | c :: rest =>
    if c.toNat < 0x20 then .error (faultAt .controlCharacter (Text.size (c :: rest)))
    else skipQuoted rest

/-- Passes over what follows the letter of an exponent. -/
def skipExponent : Reader Unit := fun s =>
  let digits :=
    match s with
    | '+' :: rest => rest
    | '-' :: rest => rest
    | _ => s
  match digits with
  | [] => failHere .badNumber digits
  | c :: rest =>
    if c.isDigit then .ok ((), rest.dropWhile Char.isDigit) else failNext .badNumber digits

/-- Passes over an exponent if there is one. -/
def skipExponentPart : Reader Unit := fun s =>
  match s with
  | 'e' :: rest => skipExponent rest
  | 'E' :: rest => skipExponent rest
  | _ => .ok ((), s)

/-- Passes over what may follow the digits before the point. -/
def skipFraction : Reader Unit := fun s =>
  match s with
  | '.' :: rest =>
    let after := rest.dropWhile Char.isDigit
    if after.length = rest.length then failNext .badNumber rest else skipExponentPart after
  | _ => skipExponentPart s

/-- Passes over a number behind its sign. -/
def skipNumeral : Reader Unit := fun s =>
  match s with
  | [] => failHere .badNumber s
  | '0' :: rest =>
    match rest with
    | c :: _ => if c.isDigit then failNext .badNumber rest else skipFraction rest
    | [] => skipFraction rest
  | c :: rest =>
    if c.isDigit then skipFraction (rest.dropWhile Char.isDigit) else failNext .badNumber s

/-- Passes over a value that is neither array nor object and begins with `c`. -/
def skipScalar (c : Char) : Reader Unit :=
  if c = 'n' then do
    advance
    word "ull"
  else if c = 't' then do
    advance
    word "rue"
  else if c = 'f' then do
    advance
    word "alse"
  else if c = '-' then do
    advance
    skipNumeral
  else if c.isDigit then skipNumeral
  else if c = '"' then do
    advance
    skipQuoted
  else failNext .noValue

/-- An array or an object that has been entered. -/
inductive Bracket where
  | array
  | object
deriving DecidableEq, Repr

/-- The bracket that closes an array or an object. -/
def Bracket.close : Bracket → Char
  | array => ']'
  | object => '}'

/-- Passes over a member's name and its colon. -/
def skipName : Reader Unit := do
  match ← next? with
  | none => failNext .endInObject
  | some c =>
    if c = '"' then
      advance
      skipQuoted
      colon
    else failNext .nameNotString

/-- Passes over closing brackets and at most one comma. Returns the brackets that are still open;
if there are any, a value follows, or a name and a value. -/
def skipClosings : (bound : Nat) → (afterValue : Bool) → List Bracket → Reader (List Bracket)
  | _, _, [] => return []
  | 0, _, opened => return opened
  | bound + 1, afterValue, b :: outer => do
    match ← next? with
    | none => failNext (if b = .array then .endInArray else .endInObject)
    | some c =>
      if afterValue && c == ',' then
        advance
        return b :: outer
      else if c = b.close then
        advance
        skipClosings bound true outer
      else if afterValue then
        failNext (if b = .array then .noArraySeparator else .noObjectSeparator)
      else return b :: outer

/-- Passes over the rest of a value, of which some brackets are open. -/
def skipOpened : (bound : Nat) → List Bracket → Reader Unit
  | 0, _ => return ()
  | bound + 1, opened => do
    match ← next? with
    | none => failNext .endInValue
    | some c =>
      let opened ←
        if c = '[' then do
          advance
          skipClosings (bound + 1) false (.array :: opened)
        else if c = '{' then do
          advance
          skipClosings (bound + 1) false (.object :: opened)
        else do
          skipScalar c
          skipClosings (bound + 1) true opened
      match opened with
      | [] => return ()
      | .array :: _ => skipOpened bound opened
      | .object :: _ =>
        skipName
        skipOpened bound opened

/-- Passes over a value. -/
def ignored : Reader Unit := fun s => skipOpened (s.length + 1) [] s

end PatchTrail.Json.Reader
