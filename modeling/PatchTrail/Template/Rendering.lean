import PatchTrail.Template.Evaluation
import PatchTrail.Template.Tree.Basic
import PatchTrail.Template.Tree.Reader.Stmt

/-!
# Rendering templates

The text of a template is that of its statements one after the other (`Stmt.run`, by recursion on
the tree). Macros, blocks and loops that are started again are entered through `reentry`, which goes
as deep as frames can be nested; each of them makes a frame, so that deeper than this there is
nothing to enter. `render` reads a template and renders it with data.
-/

namespace PatchTrail.Template

/-! ## Assignments -/

/-- What the items of a value are that are to be assigned one by one. -/
def unpacked (count : Nat) (v : Value) : Except Error (List Value) :=
  let refused (detail : Text) : Error := { kind := .cannotUnpack, detail? := some detail }
  match v.contents? with
  | none => .error (refused "value is not iterable")
  | some vs =>
    if vs.length = count then .ok vs
    else
      .error (refused
        ("sequence of wrong length (expected " ++ Text.ofNat count ++ ", got "
          ++ Text.ofNat vs.length ++ ")"))

/-- Sets a variable that can be changed from everywhere. -/
def setInSpace (owner : Value) (name : Text) (v : Value) : Eval Unit := do
  match owner with
  | .map _ (.space i) _ =>
    modify fun s => { s with spaces := s.spaces.modify i (Value.insertEntry (.ofText name) v) }
  | w => throw (.invalid ("can only assign to namespaces, not " ++ w.kind))

mutual

/-- Assigns a value to a target. -/
def Target.assign (re : Reentry) : Target → Value → Eval Unit
  | .name name, v => modify (·.assign name v)
  | .field e name, v => do
    let owner ← e.eval re
    Eval.onLine (e.lineAfter 0) (setInSpace owner name v)
  | .unpack targets line, v => do
    let vs ← Eval.ofExcept line (unpacked targets.length (← Eval.settled v))
    assignAll re targets vs

/-- Assigns values to targets one by one. -/
def assignAll (re : Reentry) : List Target → List Value → Eval Unit
  | t :: targets, v :: vs => do
    t.assign re v
    assignAll re targets vs
  | _, _ => return ()

end

/-! ## Loops -/

/-- The items that a loop over a value runs through, and their number if it is known before. -/
def loopItems (v : Value) : Eval (List Value × Option Nat) := do
  let v := (← get).opened v
  return (← liftM v.items, if v.isMissing then some 0 else v.size?)

/-- Clears the innermost frame for the next item of its loop, of which the state is given. -/
def startItem (state? : Option Value) : Eval Unit :=
  modify (·.onTop fun f =>
    { f with
      locals := []
      keeps? := none
      loop? := f.loop?.map fun l => { l with state? } })

/-- An item of a loop, unless it could not be produced. -/
def producedItem : Value → Eval Value
  | .broken why => throw why
  | v => return v

/-- Runs through items in a frame in which the loop can be seen. What is assigned for one item is
not seen for the next. -/
def runItems (id depth : Nat) (size? : Option Nat) (step : Value → Eval Text) :
    (index : Nat) → (previous : Value) → List Value → Eval Text
  | _, _, [] => return []
  | index, previous, v :: rest => do
    startItem (some (.loopState id index size? depth previous (rest.headD .undefined)))
    let t ← step (← producedItem v)
    return t ++ (← runItems id depth size? step (index + 1) v rest)

/-- The text of a loop over items, and whether there were none. -/
def runLoop (again? : Option Repetition) (line : Nat) (step : Value → Eval Text)
    (items : List Value × Option Nat) : Eval (Text × Bool) := do
  let (vs, size?) := items
  let depth := (((← get).loop?.filter (·.again?.isSome)).map (·.depth + 1)).getD 0
  let id ← Eval.numbering Numbering.next
  let frame : Frame := { loop? := some { state? := none, depth, again? } }
  let t ← Eval.onLine line (Eval.within frame (runItems id depth size? step 0 .undefined vs))
  return (t, vs.isEmpty)

/-- The items of a value for which a condition holds. -/
def keepItems (line : Nat) (holds : Value → Eval Bool) (v : Value) : Eval (List Value) := do
  let (vs, _) ← Eval.onLine line (loopItems v)
  let frame : Frame := { loop? := some { state? := none, depth := 0, again? := none } }
  Eval.onLine line (Eval.within frame (vs.filterM fun v => do
    startItem none
    holds (← producedItem v)))

/-! ## Other templates -/

/-- The error of a template that names another one, of which there are none. -/
def includeFailure? (mayBeMissing : Bool) (source : Value) : Option Error :=
  let choices := source.contents?.getD [source]
  let notFound (detail : Text) : Error := { kind := .templateNotFound, detail? := some detail }
  if choices.any fun v => v.asText?.isNone then some (.invalid "template name was not a string")
  else if mayBeMissing then none
  else
    match choices with
    | [] => none
    | [v] => some (notFound ("tried to include non-existing template " ++ v.describe))
    | vs =>
      some (notFound ("tried to include one of multiple templates, none of which existed "
        ++ (Value.ofList vs).display))

/-- The error of a template that extends another one, of which there are none. -/
def extendFailure (source : Value) : Error :=
  match source.asText? with
  | none => .invalid "template name was not a string"
  | some name =>
    { kind := .templateNotFound, detail? := some ("template " ++ name.quoted ++ " does not exist") }

/-- Whether text is escaped where a value says so. -/
def escapingMode (v : Value) : Except Error Bool :=
  match v.asText? with
  | some name =>
    if name = "html".toList then .ok true
    else if name = "none".toList then .ok false
    else .error (.invalid "invalid value to autoescape tag")
  | none => .ok (v.equals (.boolean true))

/-! ## Statements -/

/-- What filters make of a text. -/
def runFilters (re : Reentry) (filters : List Application) (t : Text) : Eval Value := do
  let start := (← get).ofOutput t
  filters.foldlM
    (fun v f => Eval.onLine (lineAfterArguments f.line f.arguments) do
      applyFilter f.name (v :: (← evalArguments re f.arguments)))
    start

/-- A value as it is put into the output. -/
def emitted (v : Value) : Eval Text := do
  let s ← get
  return (s.settle v).emitted s.isEscaping

/-- Declares a macro in the innermost frame. -/
def declareMacro (name : Text) (parameters : List Parameter) (body : List Stmt) (line : Nat) :
    Eval Value := do
  let (m, s) := (← get).declare name parameters body line
  set s
  Eval.numbered m

/-- Calls something with a macro among the named arguments. -/
def callWithBody (re : Reentry) (callee : Expr) (arguments : List Argument) (caller : Eval Value)
    (opLine : Nat) : Eval Value := do
  let withCaller (m : Value) (vs : List Value) : List Value :=
    let (positional, named) := splitNamed vs
    positional ++ [.map 0 .arguments (addNamed named [(.ofText "caller", m)])]
  let prepared : Eval (List Value) := do
    let vs ← evalArguments re arguments
    return withCaller (← caller) vs
  match callee with
  | .name name _ => Eval.onLine opLine do callName re name (← prepared)
  | .field e name _ => do
    let v ← e.eval re
    Eval.onLine opLine do callMethod re v name (← prepared)
  | callee => do
    let f ← callee.eval re
    Eval.onLine opLine do callValue re f (← prepared)

mutual

/-- The text of a statement. -/
def Stmt.run (re : Reentry) : Stmt → Eval Text
  | .raw t _ => return t
  | .emit e _ => do emitted (← e.eval re)
  | .cond test yes no _ => do
    if (← Eval.settled (← test.eval re)).isTrue then runBody re yes else runBody re no
  | .loop target source condition? isRecursive body fallback line => do
    let line := source.lineAfter line
    let v ← source.eval re
    let v ←
      match condition? with
      | none => pure v
      | some condition => do
        let holds (v : Value) : Eval Bool := do
          target.assign re v
          return (← Eval.settled (← condition.eval re)).isTrue
        pure (Value.ofList (← keepItems line holds v))
    let again? := if isRecursive then some ⟨target, body, line⟩ else none
    let step (v : Value) : Eval Text := do
      target.assign re v
      runBody re body
    let (t, isEmpty) ← runLoop again? line step (← Eval.onLine line (loopItems v))
    if isEmpty then runBody re fallback else return t
  | .scope assignments body line => Eval.onLine line (Eval.within {} do
    for (target, e) in assignments do
      target.assign re (← e.eval re)
    runBody re body)
  | .assign target e _ => do
    target.assign re (← e.eval re)
    return []
  | .capture target filters body _ => do
    let t ← runBody re body
    target.assign re (← runFilters re filters t)
    return []
  | .filtered filters body _ => do
    let t ← runBody re body
    emitted (← runFilters re filters t)
  | .escaping mode body line => do
    let v ← mode.eval re
    let isEscaping ← Eval.ofExcept (mode.lineAfter line) (escapingMode v)
    let before := (← get).isEscaping
    modify fun s => { s with isEscaping := isEscaping }
    let t ← runBody re body
    modify fun s => { s with isEscaping := before }
    return t
  | .block name body line => do
    let before := (← get).block?
    modify fun s => { s with block? := some name }
    let t ← Eval.onLine line (Eval.within {} (runBody re body))
    modify fun s => { s with block? := before }
    return t
  | .lacking name line =>
    Eval.onLine line (throw (.invalid ("Required block '" ++ name ++ "' not found")))
  | .extend source line => do
    let v ← source.eval re
    Eval.onLine line (throw (extendFailure v))
  | .include source mayBeMissing line => do
    let v ← Eval.settled (← source.eval re)
    match includeFailure? mayBeMissing v with
    | some e => Eval.onLine line (throw e)
    | none => return []
  | .take source line => do
    let v ← Eval.settled (← source.eval re)
    match includeFailure? false v with
    | some e => Eval.onLine line (throw e)
    | none => return []
  | .define name parameters body line => do
    let m ← declareMacro name parameters body line
    modify (·.assign name m)
    return []
  | .callWith callee arguments parameters body line => do
    let opLine := (Stmt.callWith callee arguments parameters body line).lineAfter
    let caller := declareMacro "caller" parameters body line
    emitted (← callWithBody re callee arguments caller opLine)
  | .evaluate callee arguments line => do
    let _ ← (Expr.call callee arguments line).eval re
    return []

/-- The text of the statements of a body. -/
def runBody (re : Reentry) : List Stmt → Eval Text
  | [] => return []
  | s :: rest => do
    let t ← s.run re
    return t ++ (← runBody re rest)

end

/-! ## Entering macros, blocks and loops -/

/-- The error of a macro that gets arguments it has no parameters for. -/
def surplus (detail? : Option Text) : Error := { kind := .tooManyArguments, detail? }

/-- The values of the parameters of a macro. -/
def bindParameters (m : Macro) (vs : List Value) :
    Except Error (List (Parameter × Value) × Value) := do
  let (positional, named) := splitNamed vs
  if m.parameters.length < positional.length then throw (surplus none)
  let bound ← m.parameters.zipIdx.mapM fun (p, i) =>
    match positional[i]?, Value.lookup? (.ofText p.name) named with
    | some _, some _ => .error (surplus (some ("duplicate argument `" ++ p.name ++ "`")))
    | some v, none => .ok (p, v)
    | none, some v => .ok (p, v)
    | none, none => .ok (p, Value.undefined)
  let own := (m.parameters.drop positional.length).map Parameter.name
  let known : List Text := if m.usesCaller then "caller" :: own else own
  match (named.filterMap fun (k, _) => k.asText?).find? (!known.contains ·) with
  | some name =>
    throw (surplus (some ("unknown keyword argument `" ++ name ++ "`")))
  | none => return (bound, (Value.lookup? (.ofText "caller") named).getD .undefined)

/-- Assigns values to parameters, the last of them first. Those that are undefined get their
defaults. -/
def assignParameters (re : Reentry) (bound : List (Parameter × Value)) : Eval Unit := do
  for (p, v) in bound.reverse do
    let v ←
      match v, p.default? with
      | .undefined, some e => e.eval re
      | v, _ => pure v
    modify (·.assign p.name v)

/-- By how much deeper a macro lies than the frames in which it is called. -/
def macroDepth : Nat := 4

/-- What a macro returns. -/
def enterMacro (re : Reentry) (index : Nat) (vs : List Value) : Eval Value := do
  let s ← get
  match s.macros[index]? with
  | none => return .undefined
  | some m => do
    let (bound, caller) ← liftM (bindParameters m vs)
    let ground := (s.frames.getLast?.map Frame.ground).getD .nothing
    let callerName : Text := "caller"
    let inner : Frame :=
      { ground := .kept m.keeps, locals := if m.usesCaller then [(callerName, caller)] else [] }
    set
      { s with
        frames := [inner, { ground }]
        outerDepth := s.depth + macroDepth
        block? := none
        blocks := [] }
    Eval.checkDepth
    Eval.onLine m.line (assignParameters re bound)
    let t ← runBody re m.body
    modify fun s' =>
      { s' with
        frames := s.frames, outerDepth := s.outerDepth, block? := s.block?, blocks := s.blocks }
    return (← get).ofOutput t

/-- The text of a block. -/
def enterBlock (re : Reentry) (name : Text) : Eval Text := do
  let s ← get
  match s.blocks.lookup name with
  | none =>
    throw { kind := .unknownBlock, detail? := some ("block '" ++ name ++ "' not found") }
  | some body => do
    set { s with block? := some name }
    let t ← Eval.within {} (runBody re body)
    modify fun s' => { s' with block? := s.block? }
    return t

/-- The text of the innermost loop for other items. -/
def enterLoop (re : Reentry) (v : Value) : Eval Text := do
  match (← get).loop? with
  | none => throw (.invalid "cannot recurse outside of loop")
  | some l =>
    match l.again? with
    | none => throw (.invalid "cannot recurse outside of recursive loop")
    | some again => do
      let step (v : Value) : Eval Text := do
        again.target.assign re v
        runBody re again.body
      let v := (← get).opened v
      if v.items?.isNone then
        throw (.invalid "cannot recurse because of non-iterable value")
      return (← runLoop (some again) again.line step (← loopItems v)).1

/-- How parts of a template are entered from inside of others, at most `bound` of them. -/
def reentry : (bound : Nat) → Reentry
  | 0 =>
    let refused : Error := .invalid "recursion limit exceeded"
    { callMacro := fun _ _ => throw refused
      showBlock := fun _ => throw refused
      repeatLoop := fun _ => throw refused }
  | bound + 1 =>
    let inner := reentry bound
    { callMacro := enterMacro inner, showBlock := enterBlock inner, repeatLoop := enterLoop inner }

/-- The text of statements for data. -/
def run (statements : List Stmt) (data : Value) : Except Error Text :=
  let (data, nextId) := data.numbered 1
  let start : Scope :=
    { frames := [{ ground := .data data }], blocks := blocksOf statements, nextId }
  (runBody (reentry (Scope.maxDepth + 2)) statements start).map Prod.fst

/-- The text of a template for data. -/
def render (template : Text) (data : Value) : Except Error Text := do
  run (← parse template) data

end PatchTrail.Template
