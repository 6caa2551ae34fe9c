import PatchTrail.Template.Token.Basic
import PatchTrail.Template.Tree.Basic

/-!
# Reading the tokens of a template from the left

A reader takes tokens off the front. It keeps the line of the last token that it took, which is the
line of an error, and how deep it is inside of nested parts, which is bounded. Where tokens end
because the text could not be cut into tokens any further, the reader fails as soon as it looks at
what would come next.
-/

namespace PatchTrail.Template

/-- Where a reader stands. -/
structure Cursor where
  rest : List Placed
  /-- Why there are no tokens behind the rest, if that is an error. -/
  failure? : Option Error
  /-- The line of the last token that has been taken. -/
  line : Nat
  depth : Nat
  /-- The names of the blocks seen so far. -/
  blocks : List Text
  isInMacro : Bool

/-- Takes something off the front of the tokens. -/
abbrev Reader := EStateM Error Cursor

namespace Reader

variable {α β : Type}

/-- How deep parts can be nested. -/
def maxDepth : Nat := 150

/-! ## Tokens -/

/-- The next token, which stays. -/
def peek? : Reader (Option Token) := do
  let s ← get
  match s.rest, s.failure? with
  | [], some e => throw e
  | [], none => return none
  | p :: _, _ => return some p.token

/-- Takes the next token. -/
def next? : Reader (Option Token) := do
  let s ← get
  match s.rest, s.failure? with
  | [], some e => throw e
  | [], none => return none
  | p :: rest, _ => do
    set { s with rest := rest, line := p.line }
    return some p.token

/-- The line of the last token that has been taken. -/
def lastLine : Reader Nat := return (← get).line

/-- The line of the next token. -/
def nextLine : Reader Nat := do
  let s ← get
  return (s.rest.head?.map Placed.line).getD s.line

/-- The error of something that stands where something else is asked for. -/
def unexpected (what expected : Text) : Error :=
  .malformed ("unexpected " ++ what ++ ", expected " ++ expected)

/-- Takes the next token, which has to be there. -/
def anyToken (expected : Text) : Reader Token := do
  match ← next? with
  | some t => return t
  | none => throw (unexpected "end of input" expected)

/-- Takes the next token, which has to be of a form. -/
def expect (form? : Token → Option α) (expected : Text) : Reader α := do
  let t ← anyToken expected
  match form? t with
  | some a => return a
  | none => throw (unexpected t.describe expected)

end Reader

/-- The name that a token is. -/
def Token.name? : Token → Option Text
  | name t => some t
  | _ => none

/-- Whether a token is a name. -/
def Token.isName (word : Text) : Token → Bool
  | name t => t == word
  | _ => false

/-- Whether a token is a sign. -/
def Token.isSign (s : Sign) : Token → Bool
  | sign s' => s' == s
  | _ => false

/-- Whether a token ends a statement. -/
def Token.isEndStatement : Token → Bool
  | endStatement => true
  | _ => false

/-- Whether a token ends an expression that is to be put into the text. -/
def Token.isEndExpression : Token → Bool
  | endExpression => true
  | _ => false

namespace Reader

variable {α β : Type}

/-- Whether the next token is one of some. -/
def sees (p : Token → Bool) : Reader Bool := return (← peek?).any p

/-- Takes the next token if it is one of some. -/
def skip (p : Token → Bool) : Reader Bool := do
  if ← sees p then
    let _ ← next?
    return true
  return false

/-- Takes the next token, which has to be one of some. -/
def require (p : Token → Bool) (expected : Text) : Reader Unit :=
  expect (fun t => if p t then some () else none) expected

/-- Takes a name. -/
def identifier : Reader Text := expect Token.name? "identifier"

/-- Takes a sign. -/
def sign (s : Sign) : Reader Unit := require (Token.isSign s) (Token.sign s).describe

/-- Takes the end of a statement. -/
def endOfBlock : Reader Unit := require Token.isEndStatement "end of block"

/-! ## Nesting and repeating -/

/-- Reads a part that lies one level deeper. -/
def nested (r : Reader α) : Reader α := do
  let s ← get
  if maxDepth ≤ s.depth then throw (.malformed "template exceeds maximum recursion limits")
  set { s with depth := s.depth + 1 }
  let a ← r
  modify fun s => { s with depth := s.depth - 1 }
  return a

/-- Goes from step to step, at most `bound` of them, as long as there is another one. -/
def steps (step : α → Reader (Option α)) : (bound : Nat) → α → Reader α
  | 0, a => return a
  | bound + 1, a => do
    match ← step a with
    | some b => steps step bound b
    | none => return a

/-- Goes from step to step as long as there is another one. Every step takes a token. -/
def iterate (step : α → Reader (Option α)) (a : α) : Reader α := do
  steps step ((← get).rest.length + 1) a

/-- Passes over what stands behind some items with commas between them, and says whether there is no
further one. -/
def endsItems (close : Sign) (items : List α) : Reader Bool := do
  if ← skip (Token.isSign close) then return true
  if items.isEmpty then return false
  sign .comma
  skip (Token.isSign close)

/-- Reads the next of some items with commas between them, unless they have ended. -/
def nextItem? (close : Sign) (item : List α → Reader α) :
    List α × Bool → Reader (Option (List α × Bool))
  | (items, ended) => do
    if ended then return none
    if ← endsItems close items then return some (items, true)
    return some (items ++ [← item items], false)

/-- Reads items with commas between them up to a sign, in front of which there may be a comma more.
Reading an item starts with the items before it. -/
def commaSeparated (close : Sign) (item : List α → Reader α) : Reader (List α) := do
  let (items, _) ← iterate (nextItem? close item) (([] : List α), false)
  return items

end Reader

end PatchTrail.Template
