import PatchTrail.Template.Token.Reader
import PatchTrail.Template.Tree.Reader.Expr
import PatchTrail.Text.Blank

/-!
# Reading statements

A statement begins with a word that says what it is. Many have a body, which ends at a statement
with a word of its own; bodies are read by the reader `body` that every statement is given, which
reads up to one of some words and leaves it.
-/

namespace PatchTrail.Template

namespace Reader

/-- Reads the statements of a body up to one of some words. -/
abbrev BodyReader := List Text → Reader (List Stmt)

/-! ## Targets -/

/-- Names that nothing can be assigned to. -/
def reservedNames : List Text :=
  ["true", "True", "false", "False", "none", "None", "loop", "self"].map String.toList

/-- Reads a name that something can be assigned to. -/
def assignableName : Reader Text := do
  let name ← identifier
  if reservedNames.contains name then
    throw (.malformed ("cannot assign to reserved variable name " ++ name))
  return name

/-- Reads a name, or an attribute of a value, that something can be assigned to. -/
def assignablePath : Reader Target := do
  let name ← assignableName
  let line ← lastLine
  let (target, _) ← iterate
    (fun ((_, e) : Target × Expr) => do
      if ← skip (Token.isSign .dot) then
        let key ← identifier
        return some (.field e key, .field e key (← lastLine))
      return none)
    (.name name, .name name line)
  return target

/-- Whether no target can follow in front of a token. -/
def endsTargets : Token → Bool
  | .sign s => s == .closeParen
  | .endExpression => true
  | .endStatement => true
  | t => t.isName "in"

/-- Reads targets with commas between them behind those that have been found. -/
def targetsBehind (one : Reader Target) (found : List Target) (line : Nat) : Reader Target := do
  let (found, isTuple, _) ← iterate
    (fun ((found, isTuple, ended) : List Target × Bool × Bool) => do
      if ended then return none
      if !found.isEmpty then sign .comma
      if ← sees endsTargets then return some (found, isTuple, true)
      let found := found ++ [← one]
      if ← sees (Token.isSign .comma) then return some (found, true, false)
      return some (found, isTuple, true))
    (found, !found.isEmpty, false)
  match isTuple, found with
  | false, [t] => return t
  | _, _ => return .unpack found line

/-- Reads one target, which is of a form or lies in at most `bound` parentheses with others. -/
def targetWithin (form : Reader Target) : (bound : Nat) → Reader Target
  | 0 => throw (.malformed "template exceeds maximum recursion limits")
  | bound + 1 => do
    if ← skip (Token.isSign .openParen) then
      let line ← nextLine
      let t ← targetsBehind (targetWithin form bound) [] line
      sign .closeParen
      return t
    form

/-- Reads one target of a form, or others in parentheses. -/
def oneTarget (form : Reader Target) : Reader Target := do
  targetWithin form ((← get).rest.length + 1)

/-- Reads a name as a target. -/
def nameTarget : Reader Target := return .name (← assignableName)

/-- Reads one target, or more with commas between them. -/
def target : Reader Target := do targetsBehind (oneTarget nameTarget) [] (← nextLine)

/-! ## Parts of statements -/

/-- Reads the arguments of a filter if there are any. -/
def filterArguments : Reader (List Argument) := do
  if ← sees (Token.isSign .openParen) then arguments expression else return []

/-- Reads the filters that a body goes through. -/
def filterChain : Reader (List Application) := do
  let chain ← iterate
    (fun (chain : List Application) => do
      if ← sees Token.isEndStatement then return none
      if !chain.isEmpty then sign .pipe
      let name ← dottedName
      let line ← lastLine
      return some (chain ++ [⟨name, ← filterArguments, line⟩]))
    []
  if chain.isEmpty then throw (.malformed "expected a filter")
  return chain

/-- Reads a body up to a word, and the word. -/
def bodyUpTo (body : BodyReader) (word : Text) : Reader (List Stmt) := do
  let statements ← body [word]
  let _ ← next?
  return statements

/-- Reads the end of a statement and its body up to a word. -/
def bodyBehind (body : BodyReader) (word : Text) : Reader (List Stmt) := do
  endOfBlock
  bodyUpTo body word

/-- Passes over the words that say whether a template sees the variables around it. -/
def contextWords : Reader Unit := do
  if ← skip (fun t => t.isName "with" || t.isName "without") then
    require (Token.isName "context") "context"

/-- Reads the parameters of a macro behind the parenthesis. Behind one with a default, every other
has a default too. -/
def parameters : Reader (List Parameter) :=
  commaSeparated .closeParen fun before => do
    let name ← assignableName
    if ← skip (Token.isSign .assign) then return ⟨name, some (← expression)⟩
    if before.any fun p => p.default?.isSome then sign .assign
    return ⟨name, none⟩

/-- Reads the body of a macro up to a word. -/
def macroBody (body : BodyReader) (word : Text) : Reader (List Stmt) := do
  endOfBlock
  let isInMacro := (← get).isInMacro
  modify fun s => { s with isInMacro := true }
  let statements ← body [word]
  modify fun s => { s with isInMacro := isInMacro }
  let _ ← next?
  return statements

/-- Reads a call. -/
def callExpression : Reader (Expr × List Argument) := do
  match ← expression with
  | .call callee arguments _ => return (callee, arguments)
  | e =>
    throw (.malformed ("expected call expression in call block, got " ++ e.describe))

/-! ## Statements -/

/-- Reads a loop. -/
def loopStatement (body : BodyReader) (line : Nat) : Reader Stmt := do
  let target ← target
  require (Token.isName "in") "in"
  let source ← tuple simpleExpression
  let condition? : Option Expr ←
    if ← skip (Token.isName "if") then do pure (some (← expression)) else pure none
  let isRecursive ← skip (Token.isName "recursive")
  endOfBlock
  let repeated ← body ["endfor", "else"]
  let fallback ←
    if ← skip (Token.isName "else") then do
      endOfBlock
      body ["endfor"]
    else pure []
  let _ ← next?
  return .loop target source condition? isRecursive repeated fallback line

/-- Reads a condition, with at most `bound` others behind it. -/
def conditions (body : BodyReader) : (bound line : Nat) → Reader Stmt
  | 0, _ => throw (.malformed "template exceeds maximum recursion limits")
  | bound + 1, line => do
    let test ← tuple simpleExpression
    endOfBlock
    let yes ← body ["endif", "else", "elif"]
    let word? := (← next?).bind Token.name?
    if word? == some "else" then
      return .cond test yes (← bodyBehind body "endif") line
    if word? == some "elif" then
      return .cond test yes [← conditions body bound (← lastLine)] line
    return .cond test yes [] line

/-- Reads variables for a body. -/
def scopeStatement (body : BodyReader) (line : Nat) : Reader Stmt := do
  let assignments ← iterate
    (fun (found : List (Target × Expr)) => do
      if ← sees Token.isEndStatement then return none
      if !found.isEmpty then require (Token.isSign .comma) "comma"
      let target ← oneTarget nameTarget
      require (Token.isSign .assign) "assignment operator"
      return some (found ++ [(target, ← expression)]))
    []
  return .scope assignments (← bodyBehind body "endwith") line

/-- Reads an assignment of a value, or of the text of a body to a single target. -/
def assignStatement (body : BodyReader) (line : Nat) : Reader Stmt := do
  let isInParens ← sees (Token.isSign .openParen)
  let start ← nextLine
  let first ← oneTarget assignablePath
  let isAlone ← (fun more => !more) <$> sees (Token.isSign .comma)
  let target ←
    if isAlone then pure first else targetsBehind (oneTarget assignablePath) [first] start
  let isCapture (t : Token) : Bool := t.isEndStatement || t.isSign .pipe
  if isAlone && !isInParens && (← sees isCapture) then
    let chain ← if ← skip (Token.isSign .pipe) then filterChain else pure []
    return .capture target chain (← bodyBehind body "endset") line
  require (Token.isSign .assign) "assignment operator"
  return .assign target (← tuple expression) line

/-- Whether a statement is text that consists of blanks. -/
def isBlankStatement : Stmt → Bool
  | .raw t _ => t.all isBlank
  | _ => false

/-- Reads the body of a block. If another template has to provide it, there are only blanks and
comments. -/
def blockBody (body : BodyReader) (name : Text) (isRequired : Bool) (line : Nat) :
    Reader (List Stmt) := do
  let statements ← bodyBehind body "endblock"
  if !isRequired then return statements
  if !statements.all isBlankStatement then
    throw (.malformed "Required blocks can only contain comments or whitespace")
  return [.lacking name line]

/-- Reads a block, of which there is only one of each name and none in a macro. -/
def blockStatement (body : BodyReader) (line : Nat) : Reader Stmt := do
  if (← get).isInMacro then throw (.malformed "block tags in macros are not allowed")
  let name ← identifier
  if (← get).blocks.contains name then
    throw (.malformed ("block '" ++ name ++ "' defined twice"))
  modify fun s => { s with blocks := name :: s.blocks }
  let _ ← skip (Token.isName "scoped")
  let isRequired ← skip (Token.isName "required")
  let statements ← blockBody body name isRequired line
  match ← peek? with
  | some (.name trailing) =>
    if trailing ≠ name then
      throw (.malformed
        ("mismatching name on block. Got `" ++ trailing ++ "`, expected `" ++ name ++ "`"))
    let _ ← next?
    return .block name statements line
  | _ => return .block name statements line

/-- Reads what is taken of another template. -/
def includeStatement (line : Nat) : Reader Stmt := do
  let source ← expression
  contextWords
  if ← skip (Token.isName "ignore") then
    require (Token.isName "missing") "missing keyword"
    contextWords
    return .include source true line
  return .include source false line

/-- Reads under which name the variables of another template are taken. -/
def importStatement (line : Nat) : Reader Stmt := do
  let source ← expression
  require (Token.isName "as") "as"
  let _ ← expression
  contextWords
  return .take source line

/-- Reads which variables of another template are taken. -/
def fromStatement (line : Nat) : Reader Stmt := do
  let source ← expression
  require (Token.isName "import") "import"
  let isContext (t : Token) : Bool := t.isName "with" || t.isName "without"
  let _ ← iterate
    (fun ((isFirst, ended) : Bool × Bool) => do
      if ended then return none
      if ← sees Token.isEndStatement then return some (isFirst, true)
      if !isFirst then sign .comma
      if ← sees (fun t => t.isEndStatement || isContext t) then return some (isFirst, true)
      let _ ← assignableName
      if ← skip (Token.isName "as") then
        let _ ← assignableName
      return some (false, false))
    (true, false)
  contextWords
  return .take source line

/-- Reads a macro. -/
def macroStatement (body : BodyReader) (line : Nat) : Reader Stmt := do
  let name ← identifier
  sign .openParen
  let parameters ← parameters
  return .define name parameters (← macroBody body "endmacro") line

/-- Reads a call of a macro that can call the body. -/
def callStatement (body : BodyReader) (line : Nat) : Reader Stmt := do
  let parameters ← if ← skip (Token.isSign .openParen) then parameters else pure []
  let (callee, arguments) ← callExpression
  return .callWith callee arguments parameters (← macroBody body "endcall") line

/-- Reads a statement behind its first sign. -/
def statement (body : BodyReader) : Reader Stmt := nested do
  let token ← anyToken "block keyword"
  let line ← lastLine
  match token with
  | .name word =>
    match String.ofList word with
    | "for" => loopStatement body line
    | "if" => conditions body ((← get).rest.length + 1) line
    | "with" => scopeStatement body line
    | "set" => assignStatement body line
    | "autoescape" => do
      let mode ← expression
      return .escaping mode (← bodyBehind body "endautoescape") line
    | "filter" => do
      let chain ← filterChain
      return .filtered chain (← bodyBehind body "endfilter") line
    | "block" => blockStatement body line
    | "extends" => return .extend (← expression) line
    | "include" => includeStatement line
    | "import" => importStatement line
    | "from" => fromStatement line
    | "macro" => macroStatement body line
    | "call" => callStatement body line
    | "do" => do
      let (callee, arguments) ← callExpression
      return .evaluate callee arguments line
    | _ => throw (.malformed ("unknown statement " ++ word))
  | t => throw (.malformed ("unknown " ++ t.describe ++ ", expected statement"))

/-- Reads the next statement of a body behind those that have been found, unless the body has ended
at one of some words. -/
def nextStatement? (other : Reader Stmt) (ends : List Text) :
    List Stmt × Bool → Reader (Option (List Stmt × Bool))
  | (found, ended) => do
    if ended then return none
    match ← next? with
    | none => return none
    | some (.data t) => return some (.raw t (← lastLine) :: found, false)
    | some .startExpression => do
      let line ← lastLine
      let e ← tuple expression
      require Token.isEndExpression "end of variable block"
      return some (.emit e line :: found, false)
    | some _ => do
      match ← peek? with
      | none => throw (unexpected "end of input" "keyword")
      | some t =>
        if (t.name?.map ends.contains).getD false then return some (found, true)
        let s ← other
        endOfBlock
        return some (s :: found, false)

/-- Reads the statements of a body up to one of some words, where bodies are nested at most `bound`
times. -/
def bodies : (bound : Nat) → BodyReader
  | 0, _ => throw (.malformed "template exceeds maximum recursion limits")
  | bound + 1, ends => do
    let (found, _) ← iterate (nextStatement? (statement (bodies bound)) ends) ([], false)
    return found.reverse

end Reader

/-- The statements of a template. -/
def parse (t : Text) : Except Error (List Stmt) :=
  let ts := tokens t
  let start : Cursor :=
    { rest := ts.placed, failure? := ts.error?, line := 0, depth := 0, blocks := [],
      isInMacro := false }
  match Reader.bodies (ts.placed.length + 1) [] start with
  | .ok statements _ => .ok statements
  | .error e s => .error (e.onLine s.line)

end PatchTrail.Template
