import PatchTrail.Resource.Id
import PatchTrail.Resource.Table
import PatchTrail.Text.Quoted

/-!
# Allocating ids

A new resource gets the id after the greatest id of its kind, so a kind without resources cannot
get its first this way. The new entry goes on a line of its own in front of the last line that
begins with the end of the table.
-/

namespace PatchTrail.Resource

/-- A resource to be defined: the directory of the files that hold the constants, its kind and its
name. -/
structure Definition where
  directory : Text
  kind : Text
  name : Text
deriving DecidableEq, Repr

/-- Why no id can be allocated. -/
inductive Error where
  | malformed (fault : Markup.Fault)
  | badId (id name : Text)
  | noneOfKind (kind : Text)
  | exhausted (kind : Text)
  | noEnd
deriving DecidableEq, Repr

/-- Why no id can be allocated, in words, unless the kind has no resources. -/
def Error.reason : Error → Text
  | malformed fault => fault.message
  | badId id name => "invalid id " ++ id.quoted ++ " for " ++ name
  | noneOfKind kind => kind
  | exhausted kind => "id space of " ++ kind ++ " exhausted"
  | noEnd => "missing </resources>"

/-- Why no id can be allocated, in words. -/
def Error.message : Error → Text
  | noneOfKind kind => "no existing resources found with type " ++ kind.quoted
  | e => "parse existing resources: " ++ e.reason

/-- Where a table stands inside of an app. -/
def tablePath : Text := "res/values/public.xml"

namespace Definition

/-- The file that holds the constants of the resource's kind. -/
def constantsPath (d : Definition) : Text :=
  d.directory.dropEndWhile (· == '/') ++ "/R$" ++ d.kind ++ ".smali"

/-- What the entries of a table say about a definition. -/
inductive Standing where
  /-- The resource is there already. -/
  | defined
  /-- The resource is new, and this is the greatest id of its kind, if the kind has any. -/
  | new (greatest? : Option Nat)
deriving DecidableEq, Repr

/-- Goes through the entries up to the resource itself, given the greatest id so far. -/
def standing (d : Definition) : (greatest? : Option Nat) → List Entry → Except Error Standing
  | greatest?, [] => .ok (.new greatest?)
  | greatest?, e :: rest =>
    if e.kind = d.kind then
      if e.name = d.name then .ok .defined
      else
        match parseId? e.id with
        | none => .error (.badId e.id e.name)
        | some id => d.standing (some (max id (greatest?.getD 0))) rest
    else d.standing greatest? rest

/-- The line of the table for the resource, with the line feed in front of it. -/
def line (d : Definition) (id : Text) : Text :=
  "\n    <public type=\"" ++ d.kind ++ "\" name=\"" ++ d.name ++ "\" id=\"" ++ id ++ "\" />"

/-- The end of a table on a new line. -/
def tableEnd : Text := "\n</resources>"

/-- The table with the resource and the resource's id, or `none` if it is there already. -/
def allocate (d : Definition) (table : Text) : Except Error (Option (Text × Text)) :=
  match entries table with
  | .error fault => .error (.malformed fault)
  | .ok es =>
    match d.standing none es with
    | .error e => .error e
    | .ok .defined => .ok none
    | .ok (.new none) => .error (.noneOfKind d.kind)
    | .ok (.new (some greatest)) =>
      if greatest + 1 < idBound then
        let id := renderId (greatest + 1)
        match Text.cutLast? tableEnd table with
        | none => .error .noEnd
        | some (before, after) => .ok (some (before ++ d.line id ++ tableEnd ++ after, id))
      else .error (.exhausted d.kind)

/-- What is put at the end of the file of constants. -/
def constantLines (d : Definition) (id : Text) : Text :=
  "\n\n.field public static final " ++ d.name ++ ":I = " ++ id ++ "\n"

end Definition

end PatchTrail.Resource
