import PatchTrail.Json.Reader.Ignored
import PatchTrail.Json.Shape

/-!
# Reading values of a given shape

The readers of this module check a value's shape while it is read, so that a mismatch is reported
with its place, and before anything that is malformed further on. Of a tagged value only the tag is
read this way; what it belongs to is read as a value first and decoded afterwards.
-/

namespace PatchTrail.Json.Reader

variable {α β τ : Type}

/-- Fails on a value that begins with `c` and is not what was asked for. -/
def mismatched (expected : Text) (c : Char) : Reader α :=
  if c = '[' then failShape (.wrongKind .array expected)
  else if c = '{' then failShape (.wrongKind .object expected)
  else do
    let v ← scalar c
    failShape (.wrongKind v.found expected)

/-- The first character of a value. -/
def firstOfValue : Reader Char := do
  match ← next? with
  | none => failNext .endInValue
  | some c => return c

/-- Reads a text. -/
def text : Reader Text := do
  let c ← firstOfValue
  if c = '"' then
    advance
    quoted
  else mismatched "a string" c

/-- Reads a natural number below `2^64`. -/
def natural : Reader Nat := do
  let c ← firstOfValue
  if c = '[' || c = '{' then mismatched "usize" c
  else
    match asNatural (← scalar c) with
    | .ok n => return n
    | .error m => failShape m

/-- Reads an array, element by element. -/
def list (element : (depth : Nat) → Reader α) (depth : Nat) : Reader (List α) := do
  let c ← firstOfValue
  if c = '[' then descend depth fun depth => inArray (elements (element depth))
  else mismatched "a sequence" c

/-! ## Records -/

/-- A field of a record: its name, how its value is read at a depth, and the value it has if it is
left out, if it may be left out. -/
structure Slot (α : Type) where
  name : Text
  read : (depth : Nat) → Reader α
  fallback? : Option α := none

namespace Slot

/-- Reads a member as a field that must not have been seen before. -/
def fill (f : Slot α) (depth : Nat) (seen : Option α) : Reader (Option α) :=
  match seen with
  | some _ => failLoose (.duplicateMember f.name)
  | none => do
    colon
    return some (← f.read depth)

/-- The value of a field once all members have been read. -/
def finish (f : Slot α) (seen : Option α) : Reader α :=
  match seen.or f.fallback? with
  | some v => return v
  | none => failLoose (.missingMember f.name)

/-- Reads the next element of an array as the field at a position. -/
def element (f : Slot α) (depth : Nat) (record : Text) (position : Nat) : Reader α := do
  if ← hasElement (position == 0) then f.read depth
  else
    match f.fallback? with
    | some v => return v
    | none => failLoose (.wrongLength position record)

end Slot

/-- Passes over a member that is not asked for. -/
def otherMember : Reader Unit := do
  colon
  ignored

/-- What a record is called where its length was wrong. -/
def recordOf (kind : Text) (n : Nat) : Text :=
  "struct " ++ kind ++ " with " ++ Text.ofNat n ++ if n = 1 then " element" else " elements"

/-- Reads an array or an object. -/
def either (expected : Text) (ofArray ofObject : (depth : Nat) → Reader α) (depth : Nat) :
    Reader α := do
  let c ← firstOfValue
  if c = '[' then descend depth fun depth => inArray (ofArray depth)
  else if c = '{' then descend depth fun depth => inObject (ofObject depth)
  else mismatched expected c

/-- Reads a record of one field. -/
def record1 (kind : Text) (f : Slot α) : (depth : Nat) → Reader α :=
  either ("struct " ++ kind)
    (fun depth => f.element depth (recordOf kind 1) 0)
    (fun depth => do
      let x ← members (fun x name => do
        if name = f.name then f.fill depth x
        else
          otherMember
          return x) none
      f.finish x)

/-- Reads a record of two fields. -/
def record2 (kind : Text) (f : Slot α) (g : Slot β) : (depth : Nat) → Reader (α × β) :=
  either ("struct " ++ kind)
    (fun depth => do
      let x ← f.element depth (recordOf kind 2) 0
      let y ← g.element depth (recordOf kind 2) 1
      return (x, y))
    (fun depth => do
      let (x, y) ← members (fun (x, y) name => do
        if name = f.name then return (← f.fill depth x, y)
        else if name = g.name then return (x, ← g.fill depth y)
        else
          otherMember
          return (x, y)) (none, none)
      return (← f.finish x, ← g.finish y))

/-! ## Tagged values -/

/-- Reads a tag, which is given by its name. -/
def tag (known : List (Text × τ)) : Reader τ := do
  let c ← firstOfValue
  if c = '"' then
    advance
    match tagOfText known (← quoted) with
    | .ok t => return t
    | .error m => failShape m
  else mismatched "variant identifier" c

/-- Reads a tagged value: its tag, and all the rest as a value of its own. -/
def tagged (kind : Text) (known : List (Text × τ)) : (depth : Nat) → Reader (τ × Value) :=
  either (taggedKind kind)
    (fun depth => do
      if ← hasElement true then
        let t ← tag known
        let s ← get
        let vs ← elementsUpTo (value depth) (s.length + 1) false
        return (t, .array vs)
      else failLoose (.missingMember tagName))
    (fun depth => do
      let (seen, others) ← members (fun (seen, others) name => do
        if name = tagName then
          match seen with
          | some _ => failLoose (.duplicateMember tagName)
          | none =>
            colon
            return (some (← tag known), others)
        else
          colon
          return (seen, (name, ← value depth) :: others)) (none, [])
      match seen with
      | some t => return (t, .object others.reverse)
      | none => failLoose (.missingMember tagName))

/-- Reads a tagged value and decodes what its tag belongs to. A mismatch there has no place. -/
def taggedThen (kind : Text) (known : List (Text × τ)) (decode : τ → Value → Except Mismatch α)
    (depth : Nat) : Reader α := do
  let (t, v) ← tagged kind known depth
  match decode t v with
  | .ok a => return a
  | .error m => failLoose m

end PatchTrail.Json.Reader
