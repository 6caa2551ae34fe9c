import PatchTrail.Template.Builtin.Filter.Basic
import PatchTrail.Template.Scope
import PatchTrail.Template.Tree.Line

/-!
# Evaluating expressions

Expressions are evaluated by recursion on the tree. Macros, blocks and loops that are started again
from inside of themselves lie elsewhere in the tree; how they are entered is a parameter
(`Reentry`).
-/

namespace PatchTrail.Template

/-- How parts of a template are entered that are not parts of what is being evaluated. -/
structure Reentry where
  /-- What a macro, given by its number, returns for arguments. -/
  callMacro : Nat → List Value → Eval Value
  /-- The text of the block of a name. -/
  showBlock : Text → Eval Text
  /-- The text of the innermost loop for other items. -/
  repeatLoop : Value → Eval Text

/-! ## Calls -/

namespace Value

/-- The error of a value that has no method of a name. -/
def noMethod (v : Value) (name : Text) : Error :=
  { kind := .unknownMethod, detail? := some (v.kind ++ " has no method named " ++ name) }

/-- Whether two lists of values are equal one by one. -/
def areEqual (vs ws : List Value) : Bool := equalItems vs ws

end Value

/-- A new set of variables that can be changed from everywhere. -/
def makeSpace (vs : List Value) : Eval Value := do
  let entries ← liftM (Function.namespaceEntries vs)
  let s ← get
  set { s with spaces := s.spaces.push entries }
  Eval.numbered (.map 0 (.space s.spaces.size) [])

/-- What a value returns for arguments. -/
def callValue (re : Reentry) (f : Value) (vs : List Value) : Eval Value := do
  match f with
  | .function name =>
    if name = Function.namespaceName then makeSpace vs
    else
      match Function.find? name with
      | some b => Eval.numbered (← liftM (b.apply (← vs.mapM Eval.settled)))
      | none => throw (.invalid "object is not callable")
  | .map _ (.macroRef index _) _ => re.callMacro index vs
  | .map _ (.loop _ _) _ =>
    throw
      { kind := .unknownFunction
        detail? := some "loop cannot be called if reassigned to different variable" }
  | .list _ _ _ => throw (.invalid "object is not callable")
  | .map _ _ _ => throw (.invalid "object is not callable")
  | v => throw (.invalid ("value of type " ++ v.kind ++ " is not callable"))

/-- Whether the arguments differ from those with which a loop was asked last. -/
def hasChanged (id : Nat) (vs : List Value) : Eval Bool := do
  let s ← get
  if (s.changes.lookup id).any (Value.areEqual vs) then return false
  set { s with changes := (id, vs) :: s.changes.filter fun entry => entry.1 != id }
  return true

/-- What a method of a value returns for arguments. -/
def callMethod (re : Reentry) (v : Value) (name : Text) (vs : List Value) : Eval Value := do
  match v with
  | .map id (.loop index _) _ =>
    if name = "changed".toList then return .boolean (← hasChanged id vs)
    else if name = "cycle".toList then return vs[index % vs.length]?.getD .undefined
    else throw (v.noMethod name)
  | v =>
    match (← get).attribute? v name with
    | some f => callValue re f vs
    | none => throw (v.noMethod name)

/-- What a name returns for arguments, where two names have a meaning of their own. -/
def callName (re : Reentry) (name : Text) (vs : List Value) : Eval Value := do
  let s ← get
  if name = "super".toList then
    if !vs.isEmpty then throw (.invalid "super() takes no arguments")
    throw (.invalid
      (if s.block?.isSome then "no parent block exists" else "cannot super outside of block"))
  else if name = "loop".toList then
    match vs with
    | [v] => return s.ofOutput (← re.repeatLoop v)
    | _ => throw (.invalid "loop() takes one argument")
  else
    match s.find? name with
    | some f => callValue re f vs
    | none =>
      throw { kind := .unknownFunction, detail? := some (name ++ " is unknown") }

/-- What a filter makes of a value. -/
def applyFilter (name : Text) (vs : List Value) : Eval Value := do
  match Filter.resultOf? (← get).isEscaping name (← vs.mapM Eval.settled) with
  | some r => Eval.numbered (← liftM r)
  | none =>
    throw { kind := .unknownFilter, detail? := some ("filter " ++ name ++ " is unknown") }

/-- Whether a value passes a test. -/
def passesTest (name : Text) (vs : List Value) : Eval Value := do
  match Test.find? name with
  | some test => return .boolean (← liftM (Arguments.readAll test (← vs.mapM Eval.settled)))
  | none =>
    throw { kind := .unknownTest, detail? := some ("test " ++ name ++ " is unknown") }

/-- The entries of a map whose entries are to be named arguments. -/
def namedEntries (v : Value) : Eval Named := do
  match ← Eval.settled v with
  | .map _ _ entries => return entries
  | v =>
    throw (.invalid ("attempted to apply keyword arguments from non map (got " ++ v.kind ++ ")"))

/-- Named arguments with further ones, which come to stand in the order of their names. -/
def addNamed (named further : Named) : Named :=
  further.foldl (fun done (k, v) => Value.insertEntry k v done) named

/-- The values of arguments, given those without names and those with names, which are one value
together. -/
def allArguments (arguments : List Argument) (positional : Eval (List Value)) (named : Eval Named) :
    Eval (List Value) := do
  let vs ← positional
  if arguments.any Argument.isNamed then return vs ++ [.map 0 .arguments (← named)]
  return vs

/-! ## Expressions -/

mutual

/-- The value of an expression. -/
def Expr.eval (re : Reentry) : Expr → Eval Value
  | .literal v _ => return v
  | .name name _ => return ((← get).find? name).getD .undefined
  | .list items _ => do Eval.numbered (.ofList (← evalItems re items))
  | .map entries _ => do Eval.numbered (Value.ofEntries (← evalEntries re entries))
  | .negate e line => do Eval.ofExcept line (← e.eval re).negate
  | .complement e _ => return .boolean !(← Eval.settled (← e.eval re)).isTrue
  | .binary op left right line => do
    let a ← Eval.settled (← left.eval re)
    let b ← Eval.settled (← right.eval re)
    Eval.numbered (← Eval.ofExcept (right.lineAfter (left.lineAfter line)) (op.apply a b))
  | .comparison first links line => do
    let a ← Eval.settled (← first.eval re)
    return .boolean (← holdAll re a (first.lineAfter line) links)
  | .both left right _ => do
    let a ← left.eval re
    if (← Eval.settled a).isTrue then right.eval re else return a
  | .either left right _ => do
    let a ← left.eval re
    if (← Eval.settled a).isTrue then return a else right.eval re
  | .choice test yes no _ => do
    if (← Eval.settled (← test.eval re)).isTrue then yes.eval re else no.eval re
  | .field e name line => do
    let v ← e.eval re
    Eval.ofExcept (e.lineAfter line) (v.found ((← get).attribute? v name))
  | .item e key line => do
    let v ← e.eval re
    let k ← key.eval re
    Eval.ofExcept (key.lineAfter (e.lineAfter line)) (v.found ((← get).part? v k))
  | .slice e start stop step line => do
    let v ← Eval.settled (← e.eval re)
    let first ← start.eval re
    let last ← stop.eval re
    let stride ← step.eval re
    let line := step.lineAfter (stop.lineAfter (start.lineAfter (e.lineAfter line)))
    Eval.numbered (← Eval.ofExcept line (v.slice first last stride))
  | .filter e name arguments line => do
    let v ← e.eval re
    Eval.onLine (lineAfterArguments (e.lineAfter line) arguments) do
      let vs ← allArguments arguments (evalPositional re arguments) (evalNamed re [] arguments)
      applyFilter name (v :: vs)
  | .test e name arguments line => do
    let v ← e.eval re
    Eval.onLine (lineAfterArguments (e.lineAfter line) arguments) do
      let vs ← allArguments arguments (evalPositional re arguments) (evalNamed re [] arguments)
      passesTest name (v :: vs)
  | .call (.name name _) arguments line => do
    Eval.onLine (lineAfterArguments line arguments) do
      let vs ← allArguments arguments (evalPositional re arguments) (evalNamed re [] arguments)
      callName re name vs
  | .call (.field (.name owner l) name _) arguments line => do
    if owner = "self".toList then
      return (← get).ofOutput (← Eval.onLine line (re.showBlock name))
    let v := ((← get).find? owner).getD .undefined
    Eval.onLine (lineAfterArguments l arguments) do
      let vs ← allArguments arguments (evalPositional re arguments) (evalNamed re [] arguments)
      callMethod re v name vs
  | .call (.field e name _) arguments line => do
    let v ← e.eval re
    Eval.onLine (lineAfterArguments (e.lineAfter line) arguments) do
      let vs ← allArguments arguments (evalPositional re arguments) (evalNamed re [] arguments)
      callMethod re v name vs
  | .call callee arguments line => do
    let f ← callee.eval re
    Eval.onLine (lineAfterArguments (callee.lineAfter line) arguments) do
      let vs ← allArguments arguments (evalPositional re arguments) (evalNamed re [] arguments)
      callValue re f vs

/-- The values of the items of a list. -/
def evalItems (re : Reentry) : List Expr → Eval (List Value)
  | [] => return []
  | e :: rest => return (← e.eval re) :: (← evalItems re rest)

/-- The keys and values of the entries of a map. -/
def evalEntries (re : Reentry) : List (Expr × Expr) → Eval (List (Value × Value))
  | [] => return []
  | (k, v) :: rest => do
    let key ← k.eval re
    let value ← v.eval re
    return (key, value) :: (← evalEntries re rest)

/-- Whether each comparison holds between a value, or the operand before, and the next operand. The
rest is not looked at behind the first that does not hold. -/
def holdAll (re : Reentry) (a : Value) (before : Nat) : List (Comparison × Expr) → Eval Bool
  | [] => return true
  | (c, e) :: rest => do
    let b ← Eval.settled (← e.eval re)
    if ← Eval.ofExcept (e.lineAfter before) (c.holds a b) then
      holdAll re b (e.lineAfter before) rest
    else return false

/-- The values of the arguments without names. -/
def evalPositional (re : Reentry) : List Argument → Eval (List Value)
  | [] => return []
  | .positional e :: rest => return (← e.eval re) :: (← evalPositional re rest)
  | .spread e :: rest => do
    let v ← Eval.settled (← e.eval re)
    let more ← evalPositional re rest
    return (← liftM v.items) ++ more
  | .named _ _ :: rest => evalPositional re rest
  | .spreadNamed _ :: rest => evalPositional re rest

/-- The values of the arguments with names. -/
def evalNamed (re : Reentry) (done : Named) : List Argument → Eval Named
  | [] => return done
  | .named name e :: rest => do
    evalNamed re (addNamed done [(.ofText name, ← e.eval re)]) rest
  | .spreadNamed e :: rest => do
    evalNamed re (addNamed done (← namedEntries (← e.eval re))) rest
  | .positional _ :: rest => evalNamed re done rest
  | .spread _ :: rest => evalNamed re done rest

end

/-- The values of arguments. -/
def evalArguments (re : Reentry) (arguments : List Argument) : Eval (List Value) :=
  allArguments arguments (evalPositional re arguments) (evalNamed re [] arguments)

end PatchTrail.Template
