import PatchTrail.Pattern.Reader.Basic

/-!
# Reading escapes and other single items

An item is a character, the dot, a condition on a position, or a class without brackets. A
backslash takes the special meaning from any sign and gives one to some letters.
-/

namespace PatchTrail.Pattern

/-- A single item of a pattern. -/
inductive Item where
  | literal (l : Literal)
  | dot (span : Span)
  | assertion (span : Span) (a : Assertion)
  | property (span : Span) (negated : Bool) (p : PropertyName)
  | shorthand (span : Span) (negated : Bool) (s : Shorthand)
deriving DecidableEq, Repr

/-- An item as a pattern. -/
def Item.toExpr : Item → Expr
  | literal l => .literal l
  | dot s => .dot s
  | assertion s a => .assertion s a
  | property s n p => .property s n p
  | shorthand s n c => .shorthand s n c

/-- The stretch of an item. -/
def Item.span : Item → Span
  | literal l => l.span
  | dot s => s
  | assertion s _ => s
  | property s _ _ => s
  | shorthand s _ _ => s

/-- Whether a character has a special meaning somewhere in a pattern. -/
def isSpecial (c : Char) : Bool :=
  ['\\', '.', '+', '*', '?', '(', ')', '|', '[', ']', '{', '}', '^', '$', '#', '&', '-',
    '~'].contains c

/-- Whether a character may stand behind a backslash for itself. -/
def isEscapable (c : Char) : Bool :=
  isSpecial c
    || (decide (c.toNat < 128) && !c.isDigit && !c.isAlpha && c != '<' && c != '>')

/-- The control character that a letter behind a backslash stands for. -/
def controlEscape? (c : Char) : Option Char :=
  match c with
  | 'a' => some '\u0007'
  | 'f' => some '\u000c'
  | 't' => some '\t'
  | 'n' => some '\n'
  | 'r' => some '\r'
  | 'v' => some '\u000b'
  | _ => none

/-- Whether a character is a hexadecimal digit. -/
def isHexDigit (c : Char) : Bool :=
  match digitValue? c with
  | some d => d < 16
  | none => false

/-- The character with a code, if there is one. -/
def charOfCode? (n : Nat) : Option Char := if n.isValidChar then some (Char.ofNat n) else none

/-- The character that hexadecimal digits stand for. -/
def charOfHex? (digits : Text) : Option Char :=
  match Text.toNat? 16 digits with
  | some n => charOfCode? n
  | none => none

namespace Reader

/-- Reads a fixed number of hexadecimal digits, the first of which comes next. -/
def hexDigits : (count : Nat) → Reader Text
  | 0 => return []
  | count + 1 => do
    match ← peek? with
    | none => refuseHere .unfinishedEscape
    | some c =>
      if isHexDigit c then
        let more ← step
        if count = 0 then return [c]
        else if more then return c :: (← hexDigits count)
        else refuseHere .unfinishedEscape
      else refuseNext .badHexDigit

/-- Reads hexadecimal digits up to a closing brace, at most `bound` of them. The character reached
has been dealt with. -/
def hexUntilBrace : (bound : Nat) → Reader Text
  | 0 => return []
  | bound + 1 => do
    if ← step then
      match ← peek? with
      | none => return []
      | some c =>
        if c = '}' then return []
        else if isHexDigit c then return c :: (← hexUntilBrace bound)
        else refuseNext .badHexDigit
    else return []

/-- Reads a character written by its code; `start` is where its backslash stands. -/
def hexEscape (start count : Nat) : Reader Item := do
  if ← step then
    let first ← position
    if ← nextIs '{' then
      let digits ← hexUntilBrace (← get).rest.length
      if ← atEnd then
        refuse .unfinishedEscape first (← position)
      else
        let stop ← position
        let _ ← step
        if digits.isEmpty then refuse .hexMissing first (← position)
        else
          match charOfHex? digits with
          | none => refuse .hexNoCharacter (first + 1) stop
          | some c => return .literal { span := ⟨start, ← position⟩, char := c }
    else
      let digits ← hexDigits count
      let stop ← position
      match charOfHex? digits with
      | none => refuse .hexNoCharacter first stop
      | some c => return .literal { span := ⟨start, stop⟩, char := c, isByte := count == 2 }
  else refuseHere .unfinishedEscape

/-- Reads characters up to a closing brace, at most `bound` of them. The character reached has been
dealt with. -/
def untilBrace : (bound : Nat) → Reader Text
  | 0 => return []
  | bound + 1 => do
    if ← step then
      match ← peek? with
      | none => return []
      | some c => if c = '}' then return [] else return c :: (← untilBrace bound)
    else return []

/-- Splits the name of a property from its value. -/
def propertyName (t : Text) : PropertyName :=
  match Text.cut? "!=" t with
  | some (name, value) => .valued true name value
  | none =>
    match Text.cut? ":" t with
    | some (name, value) => .valued false name value
    | none =>
      match Text.cut? "=" t with
      | some (name, value) => .valued false name value
      | none => .name t

/-- Reads the name of a property of characters. -/
def propertyEscape (start : Nat) (negated : Bool) : Reader Item := do
  if ← step then
    match ← peek? with
    | none => refuseHere .unfinishedEscape
    | some c =>
      if c = '{' then
        let name ← untilBrace (← get).rest.length
        if ← atEnd then refuseHere .unfinishedEscape
        else
          bump
          return .property ⟨start, ← position⟩ negated (propertyName name)
      else if c = '\\' then refuseNext .badPropertyName
      else
        let _ ← step
        return .property ⟨start, ← position⟩ negated (.letter c)
  else refuseHere .unfinishedEscape

/-- Reads letters and dashes, at most `bound` of them. -/
def boundaryLetters : (bound : Nat) → Reader Text
  | 0 => return []
  | bound + 1 => do
    match ← peek? with
    | none => return []
    | some c =>
      if c.isAlpha || c = '-' then
        let _ ← step
        return c :: (← boundaryLetters bound)
      else return []

/-- Reads the name of a word boundary in braces, if there is one. `start` is where the backslash
stands. -/
def boundaryName? (start : Nat) : Reader (Option Assertion) := do
  let before ← get
  let brace ← position
  if ← step then
    let first ← position
    match ← peek? with
    | none => return none
    | some c =>
      if c.isAlpha || c = '-' then
        let name ← boundaryLetters (← get).rest.length
        if ← nextIs '}' then
          let stop ← position
          bump
          match String.ofList name with
          | "start" => return some .wordStart
          | "end" => return some .wordEnd
          | "start-half" => return some .wordStartHalf
          | "end-half" => return some .wordEndHalf
          | _ => refuse .unknownBoundary first stop
        else refuse .unclosedBoundary brace (← position)
      else
        set before
        return none
  else refuse .unfinishedBoundary start (← position)

/-- Reads an escape. -/
def escape : Reader Item := do
  let start ← position
  bump
  match ← peek? with
  | none => refuse .unfinishedEscape start (start + 1)
  | some c =>
    if c.isDigit then refuse .backreference start (start + 2)
    else if c = 'x' then hexEscape start 2
    else if c = 'u' then hexEscape start 4
    else if c = 'U' then hexEscape start 8
    else if c = 'p' then propertyEscape start false
    else if c = 'P' then propertyEscape start true
    else
      bump
      let span : Span := ⟨start, start + 2⟩
      if isEscapable c then return .literal { span, char := c }
      else
        match controlEscape? c with
        | some d => return .literal { span, char := d }
        | none =>
          match c with
          | 'd' => return .shorthand span false .digit
          | 's' => return .shorthand span false .space
          | 'w' => return .shorthand span false .word
          | 'D' => return .shorthand span true .digit
          | 'S' => return .shorthand span true .space
          | 'W' => return .shorthand span true .word
          | 'A' => return .assertion span .textStart
          | 'z' => return .assertion span .textEnd
          | 'B' => return .assertion span .noBoundary
          | '<' => return .assertion span .wordStart
          | '>' => return .assertion span .wordEnd
          | 'b' =>
            if ← nextIs '{' then
              match ← boundaryName? start with
              | some a => return .assertion ⟨start, ← position⟩ a
              | none => return .assertion span .boundary
            else return .assertion span .boundary
          | _ => refuse .unknownEscape start (start + 2)

/-- Reads a single item outside of brackets. -/
def item (c : Char) : Reader Item := do
  let start ← position
  let span : Span := ⟨start, start + 1⟩
  if c = '\\' then escape
  else
    bump
    if c = '.' then return .dot span
    else if c = '^' then return .assertion span .lineStart
    else if c = '$' then return .assertion span .lineEnd
    else return .literal { span, char := c }

end Reader

end PatchTrail.Pattern
