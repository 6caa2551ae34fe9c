import PatchTrail.Template.Builtin.Filter.Format
import PatchTrail.Template.Builtin.Filter.Items
import PatchTrail.Template.Builtin.Filter.Text
import PatchTrail.Template.Builtin.Test
import PatchTrail.Template.Value.Basic

/-!
# The filters by name

A filter takes a value, and perhaps further arguments, to another value. Some of them have to know
whether text is escaped where it is put into the output. Items are kept by a test, of themselves or
of what a path leads to in them, and are taken to other values by a path or by a filter.
-/

namespace PatchTrail.Template

namespace Filter

/-! ## Selecting and mapping items -/

/-- Keeps the items for which a test has the outcome `keeps`. -/
def keep (keeps : Bool) (vs : List Value) (view : Value → Except Error Value)
    (passes : Value → Except Error Bool) : Except Error Value := do
  let kept ← vs.filterM fun v => do return (← passes (← view v)) == keeps
  return .ofList kept

/-- Keeps the items of a value, or those of which a path leads to what passes a test. -/
def select (keeps hasPath : Bool) : Builtin := do
  let v ← Arguments.value
  let path? ← if hasPath then some <$> Arguments.text else pure none
  let name? ← Arguments.text?
  let others ← Arguments.rest
  return do
    let passes : Value → Except Error Bool ←
      match name? with
      | none => pure fun v => .ok v.isTrue
      | some name =>
        match Test.find? name with
        | some test => pure fun v => Arguments.readAll test (v :: others)
        | none => throw { kind := .unknownTest }
    let view (v : Value) : Except Error Value := path?.elim (.ok v) v.path
    keep keeps (← v.items) view passes

/-- What a path, or a key that is no text, leads to in an item. -/
def view (path item : Value) : Except Error Value :=
  match path.asText? with
  | some names => item.path names
  | none => item.found (item.part? path)

/-- What a path leads to in all items, or something else where it leads to nothing. -/
def mapPath (v path : Value) (named : Named) : Except Error Value := do
  let default := (Value.lookup? (.ofText "default") named).getD .undefined
  let results ← (← v.items).mapM fun item =>
    match view path item with
    | .ok w => .ok (if w.isUndefined then default else w)
    | .error e => if default.isUndefined then .error e else .ok default
  named.only ["attribute", "default"]
  return .ofList results

/-- Takes all items to other values by a path or by a filter. -/
def map (find? : Text → Option Builtin) : Builtin := do
  let v ← Arguments.value
  let (others, named) := splitNamed (← Arguments.rest)
  return do
    match ← named.optional "attribute" .ok with
    | some path =>
      if !others.isEmpty then throw { kind := .tooManyArguments }
      mapPath v path named
    | none =>
      match others with
      | [] => throw (.invalid "filter name is required")
      | name :: others =>
        match name.asText? with
        | none => throw (.invalid "filter name must be a string")
        | some name =>
          match find? name with
          | none => throw { kind := .unknownFilter }
          | some filter => do
            let results ← (← v.items).mapM fun item => filter.apply (item :: others)
            return .ofList results

/-! ## Names -/

/-- A value on several lines. -/
def laidOut : Builtin := .sure do return .ofText (← Arguments.value).layout

/-- The filter of a name, except for the one that applies filters itself. -/
def findSimple? (isEscaping : Bool) (name : Text) : Option Builtin :=
  match String.ofList name with
  | "safe" => some safe
  | "escape" => some escape
  | "e" => some escape
  | "lower" => some (onText Text.lower)
  | "upper" => some (onText Text.upper)
  | "title" => some (onText (titleCase true))
  | "capitalize" => some (onText capitalize)
  | "replace" => some (replace isEscaping)
  | "length" => some (onValue Value.length)
  | "count" => some (onValue Value.length)
  | "dictsort" => some sortedEntries
  | "items" => some items
  | "reverse" => some (onValue Value.reversed)
  | "trim" => some trim
  | "join" => some (join isEscaping)
  | "split" => some split
  | "lines" => some lines
  | "default" => some default
  | "d" => some default
  | "round" => some round
  | "abs" => some (onValue Value.absolute)
  | "int" => some (onValue Value.toInteger)
  | "float" => some (onValue Value.toDecimal)
  | "attr" => some attr
  | "first" => some (onValue Value.first)
  | "last" => some (onValue Value.last)
  | "min" => some (extreme false)
  | "max" => some (extreme true)
  | "sort" => some sort
  | "list" => some list
  | "string" => some string
  | "bool" => some (onValue fun v => .ok (.boolean v.isTrue))
  | "batch" => some batch
  | "slice" => some slice
  | "sum" => some sum
  | "indent" => some indented
  | "format" => some format
  | "select" => some (select true false)
  | "reject" => some (select false false)
  | "selectattr" => some (select true true)
  | "rejectattr" => some (select false true)
  | "groupby" => some group
  | "unique" => some unique
  | "chain" => some chain
  | "zip" => some zip
  | "pprint" => some laidOut
  | _ => none

/-- The filter of a name, where a filter that applies another one takes at most `bound` names. -/
def findWithin? (isEscaping : Bool) : (bound : Nat) → Text → Option Builtin
  | 0, name => findSimple? isEscaping name
  | bound + 1, name =>
    if name = "map".toList then some (map (findWithin? isEscaping bound))
    else findSimple? isEscaping name

/-- What a filter makes of a value and further arguments. Every filter that is applied by another
one takes an argument for its name. -/
def resultOf? (isEscaping : Bool) (name : Text) (vs : List Value) : Option (Except Error Value) :=
  (findWithin? isEscaping vs.length name).map fun b => b.apply vs

end Filter

end PatchTrail.Template
