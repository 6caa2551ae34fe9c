import PatchTrail.Pattern.Reader.Escape

/-!
# Reading classes in brackets

Classes nest, and the operations on them associate to the left and bind less tightly than putting
items side by side. What has been opened but not closed is kept on a stack.
-/

namespace PatchTrail.Pattern

/-- What a class being read is waiting for. -/
inductive ClassFrame where
  /-- The end of the bracket at `opened`, inside of which the items of the bracket around it, the
  last first, have been read. -/
  | bracket (outer : List ClassExpr) (opened : Span) (negated : Bool)
  /-- The right side of an operation. -/
  | operand (op : ClassOp) (left : ClassExpr)

/-- The class that a name in brackets stands for. -/
def NamedClass.ofName? (name : Text) : Option NamedClass :=
  match String.ofList name with
  | "alnum" => some .alnum
  | "alpha" => some .alpha
  | "ascii" => some .ascii
  | "blank" => some .blank
  | "cntrl" => some .cntrl
  | "digit" => some .digit
  | "graph" => some .graph
  | "lower" => some .lower
  | "print" => some .print
  | "punct" => some .punct
  | "space" => some .space
  | "upper" => some .upper
  | "word" => some .word
  | "xdigit" => some .xdigit
  | _ => none

/-- An item as part of a class. Conditions have no place there. -/
def Item.toClass : Item → Except Fault ClassExpr
  | literal l => .ok (.literal l)
  | property s n p => .ok (.property s n p)
  | shorthand s n c => .ok (.shorthand s n c)
  | dot s => .error { reason := .badClassEscape, span := s }
  | assertion s _ => .error { reason := .badClassEscape, span := s }

/-- An item as an end of a range. -/
def Item.toLiteral : Item → Except Fault Literal
  | literal l => .ok l
  | i => .error { reason := .badRangeEnd, span := i.span }

namespace Reader

variable {α : Type}

/-- Refuses a class that has not been closed. -/
def refuseUnclosed (stack : List ClassFrame) : Reader α := do
  let opened := stack.findSome? fun
    | .bracket _ opened _ => some opened
    | .operand .. => none
  let span := opened.getD ⟨0, 0⟩
  refuse .unclosedClass span.start span.stop

/-- A class with a name, from behind its opening bracket and colon. -/
def namedClass? (rest : Text) : Option (Bool × NamedClass × Text) :=
  let (negated, rest) :=
    match rest with
    | '^' :: rest => (true, rest)
    | _ => (false, rest)
  match Text.dropPrefix? ":]" (rest.dropWhile (· != ':')) with
  | none => none
  | some after => (NamedClass.ofName? (rest.takeWhile (· != ':'))).map fun c => (negated, c, after)

/-- Reads a class with a name, if there is one. -/
def namedClass : Reader (Option ClassExpr) := do
  let s ← get
  let start ← position
  match Text.dropPrefix? "[:" s.rest with
  | none => return none
  | some rest =>
    match namedClass? rest with
    | none => return none
    | some (negated, c, after) =>
      set { s with rest := after }
      return some (.named ⟨start, ← position⟩ negated c)

/-- Reads dashes at the beginning of a class, which stand for themselves, at most `bound` of
them. -/
def leadingDashes (start : Nat) : (bound : Nat) → List ClassExpr → Reader (List ClassExpr)
  | 0, items => return items
  | bound + 1, items => do
    if ← nextIs '-' then
      let p ← position
      if ← step then
        leadingDashes start bound (.literal { span := ⟨p, p + 1⟩, char := '-' } :: items)
      else refuse .unclosedClass start start
    else return items

/-- Reads the beginning of a class in brackets and returns its frame and its first items. -/
def openClass (outer : List ClassExpr) : Reader (ClassFrame × List ClassExpr) := do
  let start ← position
  if !(← step) then refuse .unclosedClass start (← position)
  let negated ← nextIs '^'
  if negated then
    if !(← step) then refuse .unclosedClass start (← position)
  let items ← leadingDashes start (← get).rest.length []
  let items ←
    if items.isEmpty && (← nextIs ']') then do
      let p ← position
      if !(← step) then refuse .unclosedClass start (← position)
      pure [.literal { span := ⟨p, p + 1⟩, char := ']' }]
    else pure items
  return (.bracket outer ⟨start, ← position⟩ negated, items)

/-- Reads a single item of a class. -/
def classItem (c : Char) : Reader Item := do
  if c = '\\' then escape
  else
    let p ← position
    bump
    return .literal { span := ⟨p, p + 1⟩, char := c }

/-- Reads an item of a class or a range of two. -/
def classRange (c : Char) (stack : List ClassFrame) : Reader ClassExpr := do
  let first ← classItem c
  skipSpaced
  match ← peek? with
  | none => refuseUnclosed stack
  | some d =>
    let after ← peekSpaced?
    if d ≠ '-' || after == some ']' || after == some '-' then
      match first.toClass with
      | .ok item => return item
      | .error f => throw f
    else if ← step then
      match ← peek? with
      | none => refuseUnclosed stack
      | some e =>
        let last ← classItem e
        match first.toLiteral, last.toLiteral with
        | .error f, _ => throw f
        | .ok _, .error f => throw f
        | .ok a, .ok b =>
          let span : Span := ⟨a.span.start, b.span.stop⟩
          if a.char.toNat ≤ b.char.toNat then return .range span a b
          else throw { reason := .badClassRange, span }
    else refuseUnclosed stack

/-- Completes the operation that waits for its right side, if there is one. -/
def completeOperand (right : ClassExpr) : List ClassFrame → ClassExpr × List ClassFrame
  | .operand op left :: stack =>
    (.binary ⟨left.span.start, right.span.stop⟩ op left right, stack)
  | stack => (right, stack)

/-- The sign that an operation on classes consists of twice. -/
def classOp? (c : Char) : Option ClassOp :=
  match c with
  | '&' => some .intersection
  | '-' => some .difference
  | '~' => some .symmetricDifference
  | _ => none

/-- Reads on in a class with some items read, the last first, in at most `bound` steps. Returns the
class once its outermost bracket is closed. -/
def classBody : (bound : Nat) → List ClassFrame → List ClassExpr → Reader Expr
  | 0, stack, _ => refuseUnclosed stack
  | bound + 1, stack, items => do
    skipSpaced
    match ← peek? with
    | none => refuseUnclosed stack
    | some c =>
      if c = '[' then
        match ← namedClass with
        | some named => classBody bound stack (named :: items)
        | none =>
          let (frame, inner) ← openClass items
          classBody bound (frame :: stack) inner
      else if c = ']' then
        let (inner, stack) := completeOperand (.ofItems items.reverse) stack
        bump
        match stack with
        | [] => refuseUnclosed []
        | .operand .. :: _ => refuseUnclosed stack
        | [.bracket _ opened negated] =>
          return .bracket ⟨opened.start, ← position⟩ negated inner
        | .bracket outer opened negated :: stack =>
          classBody bound stack (.bracket ⟨opened.start, ← position⟩ negated inner :: outer)
      else
        let doubled := (← second?) == some c
        match if doubled then classOp? c else none with
        | some op =>
          bump
          bump
          let (left, stack) := completeOperand (.ofItems items.reverse) stack
          classBody bound (.operand op left :: stack) []
        | none => classBody bound stack ((← classRange c stack) :: items)

/-- Reads a class in brackets. -/
def bracketClass : Reader Expr := do
  let (frame, items) ← openClass []
  classBody ((← get).rest.length + 1) [frame] items

end Reader

end PatchTrail.Pattern
