import PatchTrail.Pattern.Reader.Class
import PatchTrail.Unicode.Category
import PatchTrail.Unicode.Property
import PatchTrail.Unicode.Ranges
import PatchTrail.Width

/-!
# Reading a whole pattern

Groups nest, and what has been opened but not closed is kept on a stack, so that reading is one
loop over the characters of the pattern (`Reader.body`).
-/

namespace PatchTrail.Pattern

/-- Parts read side by side, the last first, and where they begin. -/
structure Parts where
  start : Nat
  parts : List Expr

/-- The parts of a finished sequence. -/
def Parts.toExpr (p : Parts) (stop : Nat) : Expr := .ofParts ⟨p.start, stop⟩ p.parts.reverse

/-- What a pattern being read is waiting for. -/
inductive Frame where
  /-- The end of a group, before which some parts stand. `spaced` is the meaning of blanks before
  the group. -/
  | group (before : Parts) (opened : Span) (kind : GroupKind) (spaced : Bool)
  /-- The last of several choices, of which some have been read, the last first. -/
  | choices (start : Nat) (choices : List Expr)

/-- Whether a character has a property given by intervals. -/
def hasProperty (intervals : List String) (c : Char) : Bool :=
  intervals.any fun text => (Unicode.Ranges.ofHex text).contains c.toNat

/-- Whether a character is a letter in the wide sense. -/
def isLetter (c : Char) : Bool :=
  if c.toNat < 128 then c.isAlpha
  else hasProperty (Unicode.Property.intervals? "alphabetic").toList c

/-- Whether a character is a number. -/
def isNumeric (c : Char) : Bool :=
  if c.toNat < 128 then c.isDigit else hasProperty ((Unicode.Category.intervals? "n").getD []) c

/-- Whether a character may stand in the name of a group, and at its beginning. -/
def isNameChar (c : Char) (first : Bool) : Bool :=
  if first then c = '_' || isLetter c
  else c = '_' || c = '.' || c = '[' || c = ']' || isLetter c || isNumeric c

/-- The flag that a letter stands for. -/
def flagOf? (c : Char) : Option Flag :=
  match c with
  | 'i' => some .caseless
  | 'm' => some .multiLine
  | 's' => some .dotAll
  | 'U' => some .lazy
  | 'u' => some .unicode
  | 'R' => some .crlf
  | 'x' => some .spaced
  | _ => none

namespace Reader

/-- Reads the characters of a name, at most `bound` of them. -/
def nameChars : (bound : Nat) → (first : Bool) → Reader Text
  | 0, _ => return []
  | bound + 1, first => do
    match ← peek? with
    | none => return []
    | some c =>
      if c = '>' then return []
      else if isNameChar c first then
        bump
        return c :: (← nameChars bound false)
      else refuseNext .badName

/-- Reads the name of a group up to its closing bracket. -/
def groupName (index : Nat) : Reader Unit := do
  let start ← position
  let name ← nameChars (← get).rest.length true
  let stop ← position
  if ← atEnd then refuseHere .unfinishedName
  else
    bump
    if name.isEmpty then refuse .emptyName start start
    else
      let s ← get
      match s.names.find? fun n => n.1 == name with
      | some (_, earlier, _) =>
        throw { reason := .duplicateName, span := ⟨start, stop⟩, earlier? := some earlier }
      | none => set { s with names := (name, ⟨start, stop⟩, index) :: s.names }

/-- Reads flags up to the sign that ends them, at most `bound` of them. `items` are those read so
far with their positions, the last first. -/
def flagItems : (bound : Nat) → (items : List (FlagItem × Nat)) → Reader (List FlagItem)
  | 0, items => return (items.map Prod.fst).reverse
  | bound + 1, items => do
    match ← peek? with
    | none => refuseHere .unfinishedFlags
    | some c =>
      let p ← position
      if c = ':' || c = ')' then
        match items with
        | (.negation, q) :: _ => refuse .danglingNegation q (q + 1)
        | _ => return (items.map Prod.fst).reverse
      else
        let item : FlagItem ←
          if c = '-' then pure .negation
          else
            match flagOf? c with
            | some f => pure (.flag f)
            | none => refuseNext .unknownFlag
        match items.find? fun i => i.1 == item with
        | some (_, q) =>
          throw
            { reason := if c = '-' then .repeatedNegation else .duplicateFlag
              span := ⟨p, p + 1⟩
              earlier? := some ⟨q, q + 1⟩ }
        | none =>
          bump
          flagItems bound ((item, p) :: items)

/-- The number of the next group. -/
def nextGroup : Reader Nat := do
  let s ← get
  set { s with groups := s.groups + 1 }
  return s.groups + 1

/-- What stands behind an opening bracket: flags for the rest of the group around it, or a group. -/
inductive Opening where
  | flags (items : List FlagItem)
  | group (opened : Span) (kind : GroupKind)

/-- Reads the beginning of a group. -/
def openGroup : Reader Opening := do
  let start ← position
  let opened : Span := ⟨start, start + 1⟩
  bump
  skipSpaced
  let inner ← position
  if (← skipText "?=") || (← skipText "?!") || (← skipText "?<=") || (← skipText "?<!") then
    refuse .lookaround start (← position)
  else if (← skipText "?P<") || (← skipText "?<") then
    let index ← nextGroup
    groupName index
    return .group opened (.numbered index)
  else if ← skipText "?" then
    if ← atEnd then refuse .unclosedGroup start (start + 1)
    else
      let items ← flagItems ((← get).rest.length + 1) []
      let isClosed ← nextIs ')'
      bump
      if isClosed then
        if items.isEmpty then refuse .nothingToRepeat inner inner else return .flags items
      else return .group opened (.plain items)
  else return .group opened (.numbered (← nextGroup))

/-- Gives a meaning to blanks, if flags ask for one. -/
def setSpaced (items : List FlagItem) : Reader Unit :=
  match flagState .spaced items with
  | none => return ()
  | some b => modify fun s => { s with spaced := b }

/-! ## Repetitions -/

/-- The part that an operator repeats, and the parts before it. -/
def repeated (p : Parts) : Reader (Expr × Parts) :=
  match p.parts with
  | [] => refuseHere .nothingToRepeat
  | .empty :: _ => refuseHere .nothingToRepeat
  | .flags _ :: _ => refuseHere .nothingToRepeat
  | e :: before => return (e, { p with parts := before })

/-- Passes over a question mark, which makes a repetition reluctant; tells whether there is none. -/
def greedy : Reader Bool := do
  if ← nextIs '?' then
    bump
    return false
  else return true

/-- Puts a repetition in the place of what it repeats. -/
def pushRepetition (before : Parts) (least : Nat) (most? : Option Nat) (isGreedy : Bool)
    (sub : Expr) : Reader Parts := do
  let stop ← position
  let part := .repetition ⟨sub.start, stop⟩ least most? isGreedy sub
  return { before with parts := part :: before.parts }

/-- Reads one of the operators that are a single sign. -/
def simpleRepetition (p : Parts) (least : Nat) (most? : Option Nat) : Reader Parts := do
  let (sub, before) ← repeated p
  bump
  pushRepetition before least most? (← greedy) sub

/-- Passes over blanks, at most `bound` of them. -/
def skipBlanks (skip : Reader Unit) : (bound : Nat) → Reader Unit
  | 0 => return ()
  | bound + 1 => do
    match ← peek? with
    | some c =>
      if isBlank c then
        skip
        skipBlanks skip bound
      else return ()
    | none => return ()

/-- Reads decimal digits, at most `bound` of them. -/
def decimalDigits : (bound : Nat) → Reader Text
  | 0 => return []
  | bound + 1 => do
    match ← peek? with
    | some c =>
      if c.isDigit then
        let _ ← step
        return c :: (← decimalDigits bound)
      else return []
    | none => return []

/-- Reads a decimal number. What is wrong with it need not matter, so it is returned. -/
def decimal : Reader (Except Fault Nat) := do
  let bound := (← get).rest.length
  skipBlanks bump bound
  let start ← position
  let digits ← decimalDigits bound
  let span : Span := ⟨start, ← position⟩
  skipBlanks (discard step) bound
  match Text.toNat? 10 digits with
  | none => return .error { reason := .countMissing, span }
  | some n =>
    return if n < Width.bound32 then .ok n else .error { reason := .decimalTooLarge, span }

/-- A number that does matter. -/
def required : Except Fault Nat → Reader Nat
  | .ok n => return n
  | .error f => throw f

/-- Reads a repetition with counts in braces. -/
def countedRepetition (p : Parts) : Reader Parts := do
  let start ← position
  let (sub, before) ← repeated p
  if !(← step) then refuse .unclosedCount start (← position)
  let count ← decimal
  if ← atEnd then refuse .unclosedCount start (← position)
  let (least, most?) ←
    if ← nextIs ',' then do
      if !(← step) then refuse .unclosedCount start (← position)
      if ← nextIs '}' then pure (← required count, none)
      else
        let least ← required count
        pure (least, some (← required (← decimal)))
    else do
      let n ← required count
      pure (n, some n)
  if !(← nextIs '}') then refuse .unclosedCount start (← position)
  let more ← step
  let isGreedy ← if more then greedy else pure true
  if most?.any (· < least) then refuse .badCount start (← position)
  pushRepetition before least most? isGreedy sub

/-! ## Patterns -/

/-- Completes the choices that wait for their last, if there are any. -/
def completeChoices (last : Expr) (stop : Nat) : List Frame → Expr × List Frame
  | .choices start choices :: stack =>
    (.alternation ⟨start, stop⟩ (last :: choices).reverse, stack)
  | stack => (last, stack)

/-- Puts a choice aside and waits for the next. -/
def pushChoice (p : Parts) (stop : Nat) : List Frame → List Frame
  | .choices start choices :: stack => .choices start (p.toExpr stop :: choices) :: stack
  | stack => .choices p.start [p.toExpr stop] :: stack

/-- Closes a group and returns the parts around it. -/
def closeGroup (stack : List Frame) (p : Parts) : Reader (List Frame × Parts) := do
  let stop ← position
  let (inner, stack) := completeChoices (p.toExpr stop) stop stack
  match stack with
  | .group before opened kind spaced :: stack =>
    bump
    modify fun s => { s with spaced := spaced }
    let group : Expr := .group ⟨opened.start, stop + 1⟩ kind inner
    return (stack, { before with parts := group :: before.parts })
  | _ => refuse .unopenedGroup stop (stop + 1)

/-- The whole pattern, once nothing is left of it. -/
def finish (stack : List Frame) (p : Parts) : Reader Expr := do
  let stop ← position
  let (whole, stack) := completeChoices (p.toExpr stop) stop stack
  match stack with
  | .group _ opened _ _ :: _ => refuse .unclosedGroup opened.start opened.stop
  | _ => return whole

/-- Reads on in a pattern, in at most `bound` steps. -/
def body : (bound : Nat) → List Frame → Parts → Reader Expr
  | 0, stack, p => finish stack p
  | bound + 1, stack, p => do
    skipSpaced
    match ← peek? with
    | none => finish stack p
    | some c =>
      if c = '(' then
        match ← openGroup with
        | .flags items =>
          setSpaced items
          body bound stack { p with parts := .flags items :: p.parts }
        | .group opened kind =>
          let spaced := (← get).spaced
          match kind with
          | .plain items => setSpaced items
          | .numbered _ => pure ()
          body bound (.group p opened kind spaced :: stack) ⟨← position, []⟩
      else if c = ')' then
        let (stack, p) ← closeGroup stack p
        body bound stack p
      else if c = '|' then
        let stop ← position
        bump
        body bound (pushChoice p stop stack) ⟨stop + 1, []⟩
      else if c = '[' then
        let e ← bracketClass
        body bound stack { p with parts := e :: p.parts }
      else if c = '?' then body bound stack (← simpleRepetition p 0 (some 1))
      else if c = '*' then body bound stack (← simpleRepetition p 0 none)
      else if c = '+' then body bound stack (← simpleRepetition p 1 none)
      else if c = '{' then body bound stack (← countedRepetition p)
      else
        let i ← item c
        body bound stack { p with parts := i.toExpr :: p.parts }

end Reader

/-- A pattern that has been read: its parts, how many groups it has, and the names of groups. -/
structure Reading where
  expr : Expr
  groups : Nat
  names : List (Text × Nat)

/-- Reads a pattern. -/
def read (pattern : Text) : Except Fault Reading := do
  let start : ReadState := { rest := pattern, length := pattern.length }
  let (expr, s) ← Reader.body (pattern.length + 1) [] ⟨0, []⟩ start
  match expr.tooDeep? maxNesting with
  | some span => throw { reason := .nestedTooDeep, span }
  | none => return { expr, groups := s.groups, names := s.names.map fun (n, _, i) => (n, i) }

end PatchTrail.Pattern
