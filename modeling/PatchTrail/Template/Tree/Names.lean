import PatchTrail.Template.Tree.Basic

/-!
# The names in a template

A macro keeps the variables around its declaration that its body names. Names that the body assigns
itself are among them too, which does no harm: what the body assigns comes first.
-/

namespace PatchTrail.Template

mutual

/-- The names in an expression. -/
def Expr.names : Expr → List Text
  | .literal _ _ => []
  | .name name _ => [name]
  | .list items _ => namesOfItems items
  | .map entries _ => namesOfEntries entries
  | .negate e _ => e.names
  | .complement e _ => e.names
  | .binary _ left right _ => left.names ++ right.names
  | .comparison first links _ => first.names ++ namesOfLinks links
  | .both left right _ => left.names ++ right.names
  | .either left right _ => left.names ++ right.names
  | .choice test yes no _ => test.names ++ yes.names ++ no.names
  | .field e _ _ => e.names
  | .item e key _ => e.names ++ key.names
  | .slice e start stop step _ => e.names ++ start.names ++ stop.names ++ step.names
  | .filter e _ arguments _ => e.names ++ namesOfArguments arguments
  | .test e _ arguments _ => e.names ++ namesOfArguments arguments
  | .call callee arguments _ => callee.names ++ namesOfArguments arguments

/-- The names in the items of a list. -/
def namesOfItems : List Expr → List Text
  | [] => []
  | e :: rest => e.names ++ namesOfItems rest

/-- The names in the entries of a map. -/
def namesOfEntries : List (Expr × Expr) → List Text
  | [] => []
  | (k, v) :: rest => k.names ++ v.names ++ namesOfEntries rest

/-- The names in the operands of comparisons. -/
def namesOfLinks : List (Comparison × Expr) → List Text
  | [] => []
  | (_, e) :: rest => e.names ++ namesOfLinks rest

/-- The names in the arguments of a call. -/
def namesOfArguments : List Argument → List Text
  | [] => []
  | .positional e :: rest => e.names ++ namesOfArguments rest
  | .spread e :: rest => e.names ++ namesOfArguments rest
  | .named _ e :: rest => e.names ++ namesOfArguments rest
  | .spreadNamed e :: rest => e.names ++ namesOfArguments rest

end

/-- The names in the arguments of filters. -/
def namesOfFilters (filters : List Application) : List Text :=
  filters.flatMap fun f => namesOfArguments f.arguments

/-- The names in the defaults of parameters. -/
def namesOfParameters (parameters : List Parameter) : List Text :=
  parameters.flatMap fun p => (p.default?.map Expr.names).getD []

mutual

/-- The names in a target of which an attribute is assigned. -/
def Target.names : Target → List Text
  | .name _ => []
  | .field e _ => e.names
  | .unpack targets _ => namesOfTargets targets

/-- The names in targets of which attributes are assigned. -/
def namesOfTargets : List Target → List Text
  | [] => []
  | t :: rest => t.names ++ namesOfTargets rest

end

mutual

/-- The names in a statement. -/
def Stmt.names : Stmt → List Text
  | .raw _ _ => []
  | .emit e _ => e.names
  | .cond test yes no _ => test.names ++ namesOfBody yes ++ namesOfBody no
  | .loop target source condition? _ body fallback _ =>
    target.names ++ source.names ++ (condition?.map Expr.names).getD [] ++ namesOfBody body
      ++ namesOfBody fallback
  | .scope assignments body _ =>
    assignments.flatMap (fun (target, e) => target.names ++ e.names) ++ namesOfBody body
  | .assign target e _ => target.names ++ e.names
  | .capture target filters body _ => target.names ++ namesOfFilters filters ++ namesOfBody body
  | .filtered filters body _ => namesOfFilters filters ++ namesOfBody body
  | .escaping mode body _ => mode.names ++ namesOfBody body
  | .block _ body _ => namesOfBody body
  | .lacking _ _ => []
  | .extend source _ => source.names
  | .include source _ _ => source.names
  | .take source _ => source.names
  | .define _ parameters body _ => namesOfParameters parameters ++ namesOfBody body
  | .callWith callee arguments parameters body _ =>
    callee.names ++ namesOfArguments arguments ++ namesOfParameters parameters ++ namesOfBody body
  | .evaluate callee arguments _ => callee.names ++ namesOfArguments arguments

/-- The names in the statements of a body. -/
def namesOfBody : List Stmt → List Text
  | [] => []
  | s :: rest => s.names ++ namesOfBody rest

end

end PatchTrail.Template
