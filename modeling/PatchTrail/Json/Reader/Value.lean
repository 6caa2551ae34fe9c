import PatchTrail.Json.Reader.Numeral
import PatchTrail.Json.Reader.Quoted

/-!
# Reading values

Arrays and objects are read by two loops, `elements` and `members`, that take the reader of one
element or member as an argument. They stop in front of the closing bracket, which `enclosed` then
passes over. The depth of a document is bounded: at depth zero no array or object may begin.
-/

namespace PatchTrail.Json.Reader

variable {α σ : Type}

/-! ## Arrays -/

/-- Passes over a comma if need be and tells whether another element follows. -/
def hasElement (first : Bool) : Reader Bool := do
  match ← next? with
  | none => failNext .endInArray
  | some c =>
    if c = ']' then return false
    else if first then return true
    else if c = ',' then
      advance
      match ← next? with
      | none => failNext .endInValue
      | some d => if d = ']' then failNext .trailingComma else return true
    else failNext .noArraySeparator

/-- Reads elements as long as there are more, at most `bound` of them. -/
def elementsUpTo (element : Reader α) : (bound : Nat) → (first : Bool) → Reader (List α)
  | 0, _ => return []
  | bound + 1, first => do
    if ← hasElement first then
      let v ← element
      return v :: (← elementsUpTo element bound false)
    else return []

/-- Reads the elements of an array up to its closing bracket. -/
def elements (element : Reader α) : Reader (List α) := fun s =>
  elementsUpTo element (s.length + 1) true s

/-- Passes over the bracket that closes an array. -/
def endArray : Reader Unit := do
  match ← next? with
  | none => failNext .endInArray
  | some c =>
    if c = ']' then advance
    else if c = ',' then
      advance
      match ← next? with
      | some ']' => failNext .trailingComma
      | _ => failNext .trailingCharacters
    else failNext .trailingCharacters

/-- What is left after a look for the bracket that closes an array. -/
def restAfterArray (s : Text) : Text :=
  match s.dropWhile isSpace with
  | ']' :: rest => rest
  | ',' :: rest => rest.dropWhile isSpace
  | rest => rest

/-! ## Objects -/

/-- Passes over a comma if need be and tells whether another member follows. -/
def hasMember (first : Bool) : Reader Bool := do
  match ← next? with
  | none => failNext .endInObject
  | some c =>
    if c = '}' then return false
    else if first then
      if c = '"' then return true else failNext .nameNotString
    else if c = ',' then
      advance
      match ← next? with
      | none => failNext .endInValue
      | some '"' => return true
      | some '}' => failNext .trailingComma
      | some _ => failNext .nameNotString
    else failNext .noObjectSeparator

/-- Passes over the colon behind a name. -/
def colon : Reader Unit := do
  match ← next? with
  | none => failNext .endInObject
  | some c => if c = ':' then advance else failNext .noColon

/-- Reads members as long as there are more, at most `bound` of them. Each name is handed to
`member`, which reads the rest of the member and returns the state for the next. -/
def membersUpTo (member : σ → Text → Reader σ) :
    (bound : Nat) → (first : Bool) → σ → Reader σ
  | 0, _, state => return state
  | bound + 1, first, state => do
    if ← hasMember first then
      advance
      let name ← quoted
      membersUpTo member bound false (← member state name)
    else return state

/-- Reads the members of an object up to its closing bracket. -/
def members (member : σ → Text → Reader σ) (state : σ) : Reader σ := fun s =>
  membersUpTo member (s.length + 1) true state s

/-- Passes over the bracket that closes an object. -/
def endObject : Reader Unit := do
  match ← next? with
  | none => failNext .endInObject
  | some c =>
    if c = '}' then advance
    else if c = ',' then failNext .trailingComma
    else failNext .trailingCharacters

/-- What is left after a look for the bracket that closes an object. -/
def restAfterObject (s : Text) : Text :=
  match s.dropWhile isSpace with
  | '}' :: rest => rest
  | rest => rest

/-! ## Both -/

/-- Reads what stands between two brackets, the first of which has been passed over. A problem
without a place lies where the second has been looked for. -/
def enclosed (close : Reader Unit) (restAfter : Text → Text) (body : Reader α) : Reader α :=
  fun s =>
    match body s with
    | .error f => .error (f.settle restAfter)
    | .ok (v, rest) => (close rest).map fun ((), rest) => (v, rest)

/-- Reads the inside of an array and its closing bracket. -/
def inArray (body : Reader α) : Reader α := enclosed endArray restAfterArray body

/-- Reads the inside of an object and its closing bracket. -/
def inObject (body : Reader α) : Reader α := enclosed endObject restAfterObject body

/-- Passes over the bracket that opens an array or an object, if the depth allows one. -/
def descend (depth : Nat) (body : Nat → Reader α) : Reader α :=
  match depth with
  | 0 => failNext .tooDeep
  | depth + 1 => do
    advance
    body depth

/-- Reads a value that is neither array nor object and begins with `c`. -/
def scalar (c : Char) : Reader Value :=
  if c = 'n' then do
    advance
    word "ull"
    return .null
  else if c = 't' then do
    advance
    word "rue"
    return .boolean true
  else if c = 'f' then do
    advance
    word "alse"
    return .boolean false
  else if c = '-' || c.isDigit then return .number (← number)
  else if c = '"' then do
    advance
    return .string (← quoted)
  else failNext .noValue

/-- Reads a value. -/
def value : (depth : Nat) → Reader Value
  | 0 => do
    match ← next? with
    | none => failNext .endInValue
    | some c => if c = '[' || c = '{' then failNext .tooDeep else scalar c
  | depth + 1 => do
    match ← next? with
    | none => failNext .endInValue
    | some c =>
      if c = '[' then
        advance
        return .array (← inArray (elements (value depth)))
      else if c = '{' then
        advance
        let read ← inObject (members (fun (done : List (Text × Value)) name => do
          colon
          return (name, ← value depth) :: done) [])
        return .object read.reverse
      else scalar c

/-- How deep arrays and objects may be nested. -/
def maxDepth : Nat := 127

/-- Reads a whole document, behind which only spaces may stand. -/
def document (body : Nat → Reader α) (text : Text) : Except Error α :=
  let read : Reader α := do
    let v ← body maxDepth
    match ← next? with
    | none => return v
    | some _ => failNext .trailingCharacters
  match read text with
  | .ok (v, _) => .ok v
  | .error f => .error (f.toError text)

/-- Reads a document as a value. -/
def parse (text : Text) : Except Error Value := document value text

end PatchTrail.Json.Reader
