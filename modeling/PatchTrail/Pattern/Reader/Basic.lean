import PatchTrail.Pattern.Expr

/-!
# Reading a pattern from the left

The state of reading is what is left of the pattern, whether blanks and remarks are passed over at
the moment, and the groups met so far. Positions are counted from the front, so they follow from
the length of what is left.
-/

namespace PatchTrail.Pattern

/-- The state of reading a pattern. -/
structure ReadState where
  rest : Text
  length : Nat
  spaced : Bool := false
  groups : Nat := 0
  /-- The named groups so far, the last first. -/
  names : List (Text × Span × Nat) := []

/-- Reads a part of a pattern. -/
abbrev Reader := StateT ReadState (Except Fault)

namespace Reader

variable {α : Type}

/-- Passes over blanks and remarks; a remark reaches from a number sign to the end of its line. -/
def dropSpaced : (inRemark : Bool) → Text → Text
  | _, [] => []
  | true, c :: rest => dropSpaced (c != '\n') rest
  | false, c :: rest =>
    if isBlank c then dropSpaced false rest
    else if c = '#' then dropSpaced true rest
    else c :: rest

/-- The position that has been reached. -/
def position : Reader Nat := do
  let s ← get
  return s.length - s.rest.length

/-- The next character. -/
def peek? : Reader (Option Char) := do return (← get).rest.head?

/-- The character after the next. -/
def second? : Reader (Option Char) := do return (← get).rest.tail.head?

/-- Whether nothing is left. -/
def atEnd : Reader Bool := do return (← get).rest.isEmpty

/-- Whether the next character is a given one. -/
def nextIs (c : Char) : Reader Bool := do return (← get).rest.head? == some c

/-- Passes over one character. -/
def bump : Reader Unit := modify fun s => { s with rest := s.rest.tail }

/-- Passes over blanks and remarks if they have no meaning at the moment. -/
def skipSpaced : Reader Unit := modify fun s =>
  if s.spaced then { s with rest := dropSpaced false s.rest } else s

/-- Passes over one character and what has no meaning behind it; tells whether anything is left. -/
def step : Reader Bool := do
  bump
  skipSpaced
  return !(← atEnd)

/-- Passes over a given text if it comes next. -/
def skipText (t : Text) : Reader Bool := do
  let s ← get
  match Text.dropPrefix? t s.rest with
  | some rest =>
    set { s with rest := rest }
    return true
  | none => return false

/-- Refuses a stretch of the pattern. -/
def refuse (reason : Reason) (start stop : Nat) : Reader α :=
  throw { reason, span := ⟨start, stop⟩ }

/-- Refuses the position that has been reached. -/
def refuseHere (reason : Reason) : Reader α := do
  let p ← position
  refuse reason p p

/-- Refuses the next character. -/
def refuseNext (reason : Reason) : Reader α := do
  let p ← position
  refuse reason p (p + 1)

/-- The next character behind blanks and remarks after the one reached, where a remark is only
looked for once. -/
def peekSpaced? : Reader (Option Char) := do
  let s ← get
  let after := s.rest.tail
  if s.spaced then return (go false after).or after.head? else return after.head?
where
  /-- Goes over blanks and one number sign. -/
  go (inRemark : Bool) : Text → Option Char
    | [] => none
    | c :: rest =>
      if isBlank c then go inRemark rest
      else if c = '#' && !inRemark then go true rest
      else some c

end Reader

end PatchTrail.Pattern
