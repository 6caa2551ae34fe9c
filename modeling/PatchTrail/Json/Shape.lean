import PatchTrail.Json.Fault

/-!
# Values of a given shape

A record is an object with a member for each of its fields; it may also be written as the array of
its fields' values. The members of an object are looked at in the order in which they stand, so
that the first that does not fit decides which mismatch is reported. Members that are not asked for
are passed over.

A tagged value is an object one member of which, the tag, says what the rest is. It may also be
written as an array that begins with the tag.
-/

namespace PatchTrail.Json

variable {α β γ τ : Type}

/-- The text that a value is. -/
def asText : Value → Except Mismatch Text
  | .string t => .ok t
  | v => .error (.wrongKind v.found "a string")

/-- The text that a value is, where the name of a file is asked for. -/
def asPath : Value → Except Mismatch Text
  | .string t => .ok t
  | v => .error (.wrongKind v.found "path string")

/-- The truth value that a value is. -/
def asBoolean : Value → Except Mismatch Bool
  | .boolean b => .ok b
  | v => .error (.wrongKind v.found "a boolean")

/-- The natural number below `2^64` that a value is. -/
def asNatural : Value → Except Mismatch Nat
  | .number (.integer i) =>
    if i < 0 then .error (.wrongValue (.number (.integer i)) "usize") else .ok i.toNat
  | v => .error (.wrongKind v.found "usize")

/-- The list that an array is, element by element. -/
def asList (element : Value → Except Mismatch α) : Value → Except Mismatch (List α)
  | .array vs => vs.mapM element
  | v => .error (.wrongKind v.found "a sequence")

/-- How deep arrays and objects are nested in a value. -/
def Value.depth : Value → Nat
  | .array vs => depthOfElements vs + 1
  | .object ms => depthOfMembers ms + 1
  | _ => 0
where
  /-- The greatest depth of some elements. -/
  depthOfElements : List Value → Nat
    | [] => 0
    | v :: rest => max v.depth (depthOfElements rest)
  /-- The greatest depth of some members. -/
  depthOfMembers : List (Text × Value) → Nat
    | [] => 0
    | (_, v) :: rest => max v.depth (depthOfMembers rest)

/-! ## Records -/

/-- A field of a record: its name, how its value is decoded, and the value it has if it is left
out, if it may be left out. -/
structure RecordField (α : Type) where
  name : Text
  decode : Value → Except Mismatch α
  fallback? : Option α := none

namespace RecordField

/-- The field of a text. -/
def text (name : Text) : RecordField Text where
  name := name
  decode := asText

/-- The field of a list. -/
def list (name : Text) (element : Value → Except Mismatch α) : RecordField (List α) where
  name := name
  decode := asList element

/-- Decodes the value of a field that must not have been seen before. -/
def fill (f : RecordField α) (seen : Option α) (v : Value) : Except Mismatch (Option α) :=
  match seen with
  | some _ => .error (.duplicateMember f.name)
  | none => (f.decode v).map some

/-- The value of a field once all members have been seen. -/
def finish (f : RecordField α) (seen : Option α) : Except Mismatch α :=
  match seen.or f.fallback? with
  | some v => .ok v
  | none => .error (.missingMember f.name)

/-- Decodes the element of an array at a position as a field. -/
def element (f : RecordField α) (record : Text) (vs : List Value) (position : Nat) :
    Except Mismatch α :=
  match vs[position]?, f.fallback? with
  | some v, _ => f.decode v
  | none, some v => .ok v
  | none, none => .error (.wrongLength position record)

end RecordField

/-- How many elements a sequence should have had, in words. -/
def elementCount (n : Nat) : Text :=
  if n = 1 then "1 element in sequence" else Text.ofNat n ++ " elements in sequence"

/-- Refuses an array that has more elements than a record has fields. -/
def noMoreThan (n : Nat) (vs : List Value) : Except Mismatch Unit :=
  if n < vs.length then .error (.wrongLength vs.length (elementCount n)) else .ok ()

/-- A record of one field. -/
def record1 (record : Text) (f : RecordField α) : Value → Except Mismatch α
  | .object ms => do
    let x ← ms.foldlM (fun x (name, v) => if name = f.name then f.fill x v else return x) none
    f.finish x
  | .array vs => do
    let x ← f.element record vs 0
    noMoreThan 1 vs
    return x
  | v => .error (.wrongKind v.found record)

/-- A record of two fields. -/
def record2 (record : Text) (f : RecordField α) (g : RecordField β) :
    Value → Except Mismatch (α × β)
  | .object ms => do
    let (x, y) ← ms.foldlM (fun (x, y) (name, v) => do
      if name = f.name then return (← f.fill x v, y)
      else if name = g.name then return (x, ← g.fill y v)
      else return (x, y)) (none, none)
    return (← f.finish x, ← g.finish y)
  | .array vs => do
    let x ← f.element record vs 0
    let y ← g.element record vs 1
    noMoreThan 2 vs
    return (x, y)
  | v => .error (.wrongKind v.found record)

/-- A record of three fields. -/
def record3 (record : Text) (f : RecordField α) (g : RecordField β) (h : RecordField γ) :
    Value → Except Mismatch (α × β × γ)
  | .object ms => do
    let (x, y, z) ← ms.foldlM (fun (x, y, z) (name, v) => do
      if name = f.name then return (← f.fill x v, y, z)
      else if name = g.name then return (x, ← g.fill y v, z)
      else if name = h.name then return (x, y, ← h.fill z v)
      else return (x, y, z)) (none, none, none)
    return (← f.finish x, ← g.finish y, ← h.finish z)
  | .array vs => do
    let x ← f.element record vs 0
    let y ← g.element record vs 1
    let z ← h.element record vs 2
    noMoreThan 3 vs
    return (x, y, z)
  | v => .error (.wrongKind v.found record)

/-! ## Tagged values -/

/-- The name of the member that is the tag. -/
def tagName : Text := "op"

/-- What a tagged value is called where it was asked for and something else was found. -/
def taggedKind (kind : Text) : Text := "internally tagged enum " ++ kind

/-- What the record that belongs to a tag is called where its length was wrong. -/
def variantRecord (kind variant : Text) (n : Nat) : Text :=
  "struct variant " ++ kind ++ "::" ++ variant ++ " with " ++ Text.ofNat n
    ++ if n = 1 then " element" else " elements"

/-- A tag with the members that belong to it. -/
def tagged (tag : Text) (members : List (Text × Value)) : Value :=
  .object ((tagName, .string tag) :: members)

/-- Looks up the name of a tag. -/
def tagOfText (known : List (Text × τ)) (t : Text) : Except Mismatch τ :=
  match known.find? fun k => k.1 == t with
  | some (_, tag) => .ok tag
  | none => .error (.unknownTag t (known.map Prod.fst))

/-- Decodes a tag, which is given by its name. -/
def namedTag (known : List (Text × τ)) : Value → Except Mismatch τ
  | .string t => tagOfText known t
  | v => .error (.wrongKind v.found "variant identifier")

/-- Decodes a tag, which is given by its name or by its position among the tags. -/
def anyTag (known : List (Text × τ)) : Value → Except Mismatch τ
  | .number (.integer (.ofNat n)) =>
    match known[n]? with
    | some (_, tag) => .ok tag
    | none =>
      .error (.wrongValue (.number (.integer n))
        ("variant index 0 <= i < " ++ Text.ofNat known.length))
  | v => namedTag known v

/-- Takes the tag out of the members of an object. -/
def takeTag (tag : Value → Except Mismatch τ) :
    List (Text × Value) → (seen : Option τ) → (others : List (Text × Value)) →
      Except Mismatch (τ × Value)
  | [], some t, others => .ok (t, .object others.reverse)
  | [], none, _ => .error (.missingMember tagName)
  | (name, v) :: rest, seen, others =>
    if name = tagName then
      match seen with
      | some _ => .error (.duplicateMember tagName)
      | none => do takeTag tag rest (some (← tag v)) others
    else takeTag tag rest seen ((name, v) :: others)

/-- The tag of a tagged value, and the value without it. -/
def untag (kind : Text) (tag : Value → Except Mismatch τ) : Value → Except Mismatch (τ × Value)
  | .object ms => takeTag tag ms none []
  | .array [] => .error (.missingMember tagName)
  | .array (t :: vs) => do return (← tag t, .array vs)
  | v => .error (.wrongKind v.found (taggedKind kind))

end PatchTrail.Json
