import PatchTrail.Template.Tree.Basic

/-!
# Which line an error is reported on

An operation is carried out after its operands, and an error in it is reported on the line that the
last of them left behind, in the order in which a template is worked through. A part that is spread
over lines is therefore not always reported where it begins. Each function here takes the line that
was reached before a part to the line that is reached behind it.
-/

namespace PatchTrail.Template

mutual

/-- The line that is reached behind an expression. -/
def Expr.lineAfter (before : Nat) : Expr → Nat
  | .literal _ line? => line?.getD before
  | .name _ line => line
  | .list items line => if items.all Expr.isLiteral then before else lineAfterItems line items
  | .map entries line =>
    if entries.all fun (k, v) => k.isLiteral && v.isLiteral then before
    else lineAfterEntries line entries
  | .negate e line => e.lineAfter line
  | .complement e line => e.lineAfter line
  | .binary _ left right line => right.lineAfter (left.lineAfter line)
  | .comparison first links line => lineAfterLinks (first.lineAfter line) links
  | .both left right line => right.lineAfter (left.lineAfter line)
  | .either left right line => right.lineAfter (left.lineAfter line)
  | .choice test yes no line => no.lineAfter (yes.lineAfter (test.lineAfter line))
  | .field e _ line => e.lineAfter line
  | .item e key line => key.lineAfter (e.lineAfter line)
  | .slice e start stop step line =>
    step.lineAfter (stop.lineAfter (start.lineAfter (e.lineAfter line)))
  | .filter e _ arguments line => lineAfterArguments (e.lineAfter line) arguments
  | .test e _ arguments line => lineAfterArguments (e.lineAfter line) arguments
  | .call (.name _ _) arguments line => lineAfterArguments line arguments
  | .call (.field e _ _) arguments line => lineAfterArguments (e.lineAfter line) arguments
  | .call callee arguments line => lineAfterArguments (callee.lineAfter line) arguments

/-- The line that is reached behind the items of a list. -/
def lineAfterItems (before : Nat) : List Expr → Nat
  | [] => before
  | e :: rest => lineAfterItems (e.lineAfter before) rest

/-- The line that is reached behind the entries of a map. -/
def lineAfterEntries (before : Nat) : List (Expr × Expr) → Nat
  | [] => before
  | (k, v) :: rest => lineAfterEntries (v.lineAfter (k.lineAfter before)) rest

/-- The line that is reached behind the operands of comparisons. -/
def lineAfterLinks (before : Nat) : List (Comparison × Expr) → Nat
  | [] => before
  | (_, e) :: rest => lineAfterLinks (e.lineAfter before) rest

/-- The line that is reached behind the arguments of a call. -/
def lineAfterArguments (before : Nat) : List Argument → Nat
  | [] => before
  | .positional e :: rest => lineAfterArguments (e.lineAfter before) rest
  | .spread e :: rest => lineAfterArguments (e.lineAfter before) rest
  | .named _ e :: rest => lineAfterArguments (e.lineAfter before) rest
  | .spreadNamed e :: rest => lineAfterArguments (e.lineAfter before) rest

end

/-- The line that is reached behind filters that are applied one after the other. -/
def lineAfterFilters (before : Nat) (filters : List Application) : Nat :=
  filters.foldl (fun _ f => lineAfterArguments f.line f.arguments) before

mutual

/-- The line that is reached behind an assignment to a target. -/
def Target.lineAfter (before : Nat) : Target → Nat
  | .name _ => before
  | .field e _ => e.lineAfter before
  | .unpack targets line => lineAfterTargets line targets

/-- The line that is reached behind assignments to targets. -/
def lineAfterTargets (before : Nat) : List Target → Nat
  | [] => before
  | t :: rest => lineAfterTargets (t.lineAfter before) rest

end

/-- The line that is reached behind assignments. -/
def lineAfterAssignments (before : Nat) (assignments : List (Target × Expr)) : Nat :=
  assignments.foldl (fun line (target, e) => target.lineAfter (e.lineAfter line)) before

/-- The line that is reached behind the defaults of parameters. -/
def lineAfterParameters (before : Nat) (parameters : List Parameter) : Nat :=
  parameters.foldr (fun p line => (p.default?.map (·.lineAfter line)).getD line) before

mutual

/-- The line that is reached behind a statement. -/
def Stmt.lineAfter : Stmt → Nat
  | .raw _ line => line
  | .emit e line => e.lineAfter line
  | .cond test yes no line => lineAfterBody (lineAfterBody (test.lineAfter line) yes) no
  | .loop target source condition? _ body fallback line =>
    let header := target.lineAfter (source.lineAfter line)
    let header := target.lineAfter ((condition?.map (·.lineAfter header)).getD header)
    lineAfterBody (lineAfterBody header body) fallback
  | .scope assignments body line => lineAfterBody (lineAfterAssignments line assignments) body
  | .assign target e line => target.lineAfter (e.lineAfter line)
  | .capture target filters body line =>
    target.lineAfter (lineAfterFilters (lineAfterBody line body) filters)
  | .filtered filters body line => lineAfterFilters (lineAfterBody line body) filters
  | .escaping mode body line => lineAfterBody (mode.lineAfter line) body
  | .block _ _ line => line
  | .lacking _ line => line
  | .extend source line => source.lineAfter line
  | .include source _ line => source.lineAfter line
  | .take source line => source.lineAfter line
  | .define _ parameters body line => lineAfterBody (lineAfterParameters line parameters) body
  | .callWith _ _ parameters body line => lineAfterBody (lineAfterParameters line parameters) body
  | .evaluate callee arguments line => (Expr.call callee arguments line).lineAfter line

/-- The line that is reached behind the statements of a body. -/
def lineAfterBody (before : Nat) : List Stmt → Nat
  | [] => before
  | s :: rest => lineAfterBody s.lineAfter rest

end

end PatchTrail.Template
