import PatchTrail.Template.Tree.Reader.Basic

/-!
# Reading expressions

From the loosest to the tightest: a choice, `or`, `and`, `not`, comparisons, sums, joined texts,
products, powers, a minus sign, and last attributes, items, calls, filters and tests behind an
operand. Each level is a reader made from the next one; expressions in brackets are read by the
reader `inner` that all levels are given, and `expression` closes the circle. Expressions with
commas between them are one list, also without parentheses (`tuple`).
-/

namespace PatchTrail.Template

namespace Reader

/-! ## Operands -/

/-- Reads the items of a list behind its first bracket. -/
def listItems (inner : Reader Expr) : Reader (List Expr) :=
  commaSeparated .closeBracket fun _ => inner

/-- Reads the entries of a map behind its first brace. -/
def mapEntries (inner : Reader Expr) : Reader (List (Expr × Expr)) :=
  commaSeparated .closeBrace fun _ => do
    let key ← inner
    sign .colon
    return (key, ← inner)

/-- Reads an expression or a list behind an opening parenthesis. -/
def parenthesized (inner : Reader Expr) (line : Nat) : Reader Expr := do
  if ← skip (Token.isSign .closeParen) then return .list [] line
  let first ← inner
  if ← sees (Token.isSign .comma) then
    let (items, _) ← iterate
      (fun (items, ended) => do
        if ended then return none
        if ← skip (Token.isSign .closeParen) then return some (items, true)
        sign .comma
        if ← skip (Token.isSign .closeParen) then return some (items, true)
        return some (items ++ [← inner], false))
      ([first], false)
    return .list items line
  sign .closeParen
  return first

/-- The value that a name stands for in every template. -/
def constant? (name : Text) : Option Value :=
  if name = "true".toList ∨ name = "True".toList then some (.boolean true)
  else if name = "false".toList ∨ name = "False".toList then some (.boolean false)
  else if name = "none".toList ∨ name = "None".toList then some .none
  else none

/-- Reads texts behind a text, which all become one. -/
def adjacentTexts (t : Text) : Reader Text :=
  iterate
    (fun t => do
      match ← peek? with
      | some (.string more) =>
        let _ ← next?
        return some (t ++ more)
      | _ => return none)
    t

/-- Reads an operand. -/
def operand (inner : Reader Expr) : Reader Expr := nested do
  let token ← anyToken "expression"
  let line ← lastLine
  match token with
  | .name t =>
    match constant? t with
    | some v => return .literal v (some line)
    | none => return .name t line
  | .string t => return .literal (.ofText (← adjacentTexts t)) (some line)
  | .integer n => return .literal (.ofNat n) (some line)
  | .decimal x => return .literal (.decimal x) (some line)
  | .sign .openParen => parenthesized inner line
  | .sign .openBracket => return .list (← listItems inner) line
  | .sign .openBrace => return .map (← mapEntries inner) line
  | t => throw (.malformed ("unexpected " ++ t.describe))

/-- Reads a part behind at most `bound` marks of one kind. -/
def marked (isMark : Token → Bool) (build : Expr → Nat → Expr) (part : Reader Expr) :
    (bound : Nat) → Reader Expr
  | 0 => part
  | bound + 1 => do
    let line ← nextLine
    if ← skip isMark then return build (← marked isMark build part bound) line
    part

/-- Reads a part behind any number of marks of one kind. -/
def behindMarks (isMark : Token → Bool) (build : Expr → Nat → Expr) (part : Reader Expr) :
    Reader Expr := do
  marked isMark build part (← get).rest.length

/-- Reads an operand behind minus signs. -/
def signedOperand (inner : Reader Expr) : Reader Expr :=
  behindMarks (Token.isSign .minus) .negate (operand inner)

/-! ## Behind an operand -/

/-- Reads an argument. Behind a named argument there can only be others like it. -/
def argument (inner : Reader Expr) (before : List Argument) : Reader Argument := do
  if ← skip (Token.isSign .power) then return .spreadNamed (← inner)
  if ← skip (Token.isSign .times) then return .spread (← inner)
  let e ← inner
  if let .name name _ := e then
    if ← skip (Token.isSign .assign) then return .named name (← inner)
  if before.any Argument.isNamed then throw (.malformed "non-keyword arg after keyword arg")
  return .positional e

/-- Reads the arguments of a call. -/
def arguments (inner : Reader Expr) : Reader (List Argument) := do
  sign .openParen
  commaSeparated .closeParen (argument inner)

/-- Reads the arguments of a call if there are any. -/
def arguments? (inner : Reader Expr) : Reader (List Argument) := do
  if ← sees (Token.isSign .openParen) then arguments inner else return []

/-- Reads an item or a slice of an operand behind the bracket. -/
def subscript (inner : Reader Expr) (e : Expr) (line : Nat) : Reader Expr := do
  let left (v : Value) : Expr := .literal v none
  let start? : Option Expr ←
    if ← sees (Token.isSign .colon) then pure none else do pure (some (← inner))
  if ← skip (Token.isSign .colon) then
    let isOver (t : Token) : Bool := t.isSign .closeBracket || t.isSign .colon
    let stop ← if ← sees isOver then pure (left .none) else inner
    let step ←
      if ← skip (Token.isSign .colon) then
        if ← sees (Token.isSign .closeBracket) then pure (left .none) else inner
      else pure (left .none)
    sign .closeBracket
    return .slice e (start?.getD (left .none)) stop step line
  sign .closeBracket
  match start? with
  | some key => return .item e key line
  | none => throw (.malformed "empty subscript")

/-- Reads an attribute, or the position of an item, behind a dot. -/
def dotted (e : Expr) (line : Nat) : Reader Expr := do
  let key ← expect
    (fun t =>
      match t with
      | .name name => some (Sum.inl name)
      | .integer n => some (Sum.inr n)
      | _ => none)
    "identifier or integer"
  match key with
  | .inl name => return .field e name line
  | .inr n => return .item e (.literal (.ofNat n) none) line

/-- Reads an attribute, an item or a call behind an operand that begins on a line, if there is one.
What comes behind it begins on the line of its first token. -/
def trailer? (inner : Reader Expr) : Expr × Nat → Reader (Option (Expr × Nat))
  | (e, line) => do
    let following ← nextLine
    if ← skip (Token.isSign .dot) then
      return some (← dotted e line, following)
    if ← skip (Token.isSign .openBracket) then
      return some (← subscript inner e line, following)
    if ← sees (Token.isSign .openParen) then
      return some (.call e (← arguments inner) line, following)
    return none

/-- Reads attributes, items and calls behind an operand that begins on a line. -/
def postfixes (inner : Reader Expr) (e : Expr) (line : Nat) : Reader Expr := do
  let (e, _) ← iterate (trailer? inner) (e, line)
  return e

/-- Whether a token can begin an argument of a test without parentheses. -/
def beginsTestArgument : Token → Bool
  | .name t =>
    !(["and", "or", "else", "is"].map String.toList).contains t
  | .string _ => true
  | .integer _ => true
  | .decimal _ => true
  | .sign s => [Sign.plus, .minus, .openBracket, .openBrace].contains s
  | _ => false

/-- Reads the arguments of a test. -/
def testArguments (inner : Reader Expr) : Reader (List Argument) := do
  if ← sees (Token.isSign .openParen) then arguments inner
  else if ← sees beginsTestArgument then
    let line ← nextLine
    let e ← postfixes inner (← signedOperand inner) line
    return [.positional e]
  else return []

/-- Reads the name of a filter or of a test, which may have dots in it. -/
def dottedName : Reader Text := do
  let first ← identifier
  iterate
    (fun name => do
      if ← skip (Token.isSign .dot) then return some (name ++ '.' :: (← identifier))
      return none)
    first

/-- Reads filters and tests behind an operand. -/
def filters (inner : Reader Expr) (e : Expr) : Reader Expr :=
  iterate
    (fun e => do
      if ← skip (Token.isSign .pipe) then
        let name ← dottedName
        let line ← lastLine
        return some (.filter e name (← arguments? inner) line)
      if ← skip (Token.isName "is") then
        let isNegated ← skip (Token.isName "not")
        let name ← dottedName
        let line ← lastLine
        let e := .test e name (← testArguments inner) line
        return some (if isNegated then .complement e line else e)
      return none)
    e

/-- Reads an operand with everything behind it. -/
def unary (inner : Reader Expr) : Reader Expr := do
  let line ← nextLine
  let e ← postfixes inner (← signedOperand inner) line
  filters inner e

/-! ## Operators -/

/-- Reads operands with operators between them, from left to right. -/
def operators (build? : Token → Option (Expr → Expr → Nat → Expr)) (part : Reader Expr) :
    Reader Expr := do
  let line ← nextLine
  iterate
    (fun left => do
      match (← peek?).bind build? with
      | some build =>
        let _ ← next?
        return some (build left (← part) line)
      | none => return none)
    (← part)

/-- The operators among some that a token can be. -/
def oneOf (signs : List (Sign × Operator)) : Token → Option (Expr → Expr → Nat → Expr)
  | .sign s => (signs.lookup s).map .binary
  | _ => none

/-- What a word builds between two operands. -/
def word (w : Text) (build : Expr → Expr → Nat → Expr) :
    Token → Option (Expr → Expr → Nat → Expr) :=
  fun t => if t.isName w then some build else none

/-- Reads powers. -/
def powers (inner : Reader Expr) : Reader Expr :=
  operators (oneOf [(.power, .power)]) (unary inner)

/-- Reads products. -/
def products (inner : Reader Expr) : Reader Expr :=
  operators
    (oneOf [(.times, .times), (.divide, .divide), (.floorDivide, .floorDivide), (.modulo, .modulo)])
    (powers inner)

/-- Reads sums. -/
def sums (inner : Reader Expr) : Reader Expr :=
  operators (oneOf [(.plus, .plus), (.minus, .minus)])
    (operators (oneOf [(.tilde, .join)]) (products inner))

/-- The comparison that a token stands for. -/
def comparison? : Token → Option Comparison
  | .sign .equal => some .equal
  | .sign .notEqual => some .notEqual
  | .sign .less => some .less
  | .sign .lessEqual => some .lessEqual
  | .sign .greater => some .greater
  | .sign .greaterEqual => some .greaterEqual
  | .name t => if t = "in".toList then some .within else none
  | _ => none

/-- Reads the sign or the words of a comparison, if there is one. -/
def comparisonSign? : Reader (Option Comparison) := do
  match (← peek?).bind comparison? with
  | some c =>
    let _ ← next?
    return some c
  | none =>
    if ← skip (Token.isName "not") then
      require (Token.isName "in") "in"
      return some .notWithin
    return none

/-- Reads comparisons. -/
def comparisons (inner : Reader Expr) : Reader Expr := do
  let part := sums inner
  let line ← lastLine
  let first ← part
  let links ← iterate
    (fun links => do
      match ← comparisonSign? with
      | some c => return some (links ++ [(c, ← part)])
      | none => return none)
    []
  return if links.isEmpty then first else .comparison first links line

/-- Reads an expression without a choice. -/
def alternatives (inner : Reader Expr) : Reader Expr :=
  operators (word "or" .either)
    (operators (word "and" .both)
      (behindMarks (Token.isName "not") .complement (comparisons inner)))

/-- Reads an expression with at most `bound` choices that lie in what is chosen otherwise. -/
def choices (inner : Reader Expr) : (bound : Nat) → Reader Expr
  | 0 => alternatives inner
  | bound + 1 => do
    let line ← lastLine
    let (e, _) ← iterate
      (fun (e, line) => do
        if ← skip (Token.isName "if") then
          let test ← alternatives inner
          let no ←
            if ← skip (Token.isName "else") then choices inner bound
            else pure (.literal .undefined none)
          return some (.choice test e no line, ← lastLine)
        return none)
      (← alternatives inner, line)
    return e

/-- The reader of expressions inside of at most `bound` brackets. -/
def expressions : (bound : Nat) → Reader Expr
  | 0 => throw (.malformed "template exceeds maximum recursion limits")
  | bound + 1 => nested do choices (expressions bound) (← get).rest.length

/-- Reads an expression. Every bracket takes a token, so there cannot be more than tokens. -/
def expression : Reader Expr := do expressions ((← get).rest.length + 1)

/-- Reads an expression without a choice. -/
def simpleExpression : Reader Expr := do alternatives (expressions ((← get).rest.length + 1))

/-! ## Lists without parentheses -/

/-- Whether no further item of a list can follow in front of a token. -/
def endsTuple (t : Token) : Bool :=
  t.isEndExpression || t.isEndStatement || t.isSign .closeParen || t.isName "recursive"

/-- Reads an expression, or more with commas between them, which are the items of a list. -/
def tuple (part : Reader Expr) : Reader Expr := do
  let line ← nextLine
  let first ← part
  if !(← sees (Token.isSign .comma)) then return first
  let items ← iterate
    (fun items => do
      if !(← skip (Token.isSign .comma)) then return none
      if ← sees endsTuple then return none
      return some (items ++ [← part]))
    [first]
  return .list items line

end Reader

end PatchTrail.Template
