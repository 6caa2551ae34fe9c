import PatchTrail.Markup.Event

/-!
# The table of public resources

The table is a document in which each tag named `public` stands for a resource, by the kind, name
and id in its attributes. A missing attribute counts as empty.
-/

namespace PatchTrail.Resource

/-- A resource of the table. -/
structure Entry where
  kind : Text
  name : Text
  id : Text
deriving DecidableEq, Repr

/-- The name of the tags that stand for resources. -/
def entryTag : Text := "public"

/-- The value of the attribute with a key. -/
def valueOf (key : Text) (attributes : List Markup.Attribute) : Text :=
  ((attributes.find? fun a => a.key == key).map Markup.Attribute.value).getD []

/-- The resource that a tag stands for, if it does. -/
def entryOf (content : Text) : Except Markup.Fault (List Entry) :=
  if Markup.tagName content = entryTag then do
    let attributes ← Markup.attributes content entryTag.length
    return [⟨valueOf "type" attributes, valueOf "name" attributes, valueOf "id" attributes⟩]
  else .ok []

/-- The resources that the tags of a document stand for. -/
def entriesOf : List Markup.Event → Except Markup.Fault (List Entry)
  | [] => .ok []
  | .start content :: rest => do return (← entryOf content) ++ (← entriesOf rest)
  | .empty content :: rest => do return (← entryOf content) ++ (← entriesOf rest)
  | .stop _ :: rest => entriesOf rest

/-- The resources of a table, in order. -/
def entries (table : Text) : Except Markup.Fault (List Entry) := do
  let reading := Markup.read table
  let found ← entriesOf reading.events
  match reading.fault? with
  | none => return found
  | some fault => throw fault

end PatchTrail.Resource
