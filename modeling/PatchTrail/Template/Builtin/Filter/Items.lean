import PatchTrail.Template.Builtin.Filter.Number
import PatchTrail.Template.Value.Basic
import PatchTrail.Unicode.Case

/-!
# Filters on lists and maps

Where items are compared, texts that differ only in the case of their ASCII letters count as equal
unless something else is asked for.
-/

namespace PatchTrail.Template

/-! ## Order -/

/-- A text with its ASCII letters in lower case. -/
def foldCase (t : Text) : Text := t.map Char.toLower

/-- Compares two values, perhaps without regard to case. -/
def compareCased (isCased : Bool) (a b : Value) : Ordering :=
  match isCased, a.asText?, b.asText? with
  | false, some s, some t => compareTexts (foldCase s) (foldCase t)
  | _, _, _ => a.compare b

/-- Items in their order, or in the opposite one. Those that are equal stay in theirs. -/
def arrange {α : Type} (order : α → α → Ordering) (isReversed : Bool) (vs : List α) : List α :=
  Value.sortBy (fun a b => if isReversed then order b a else order a b) vs

/-- The first of the least items, or the last of the greatest ones. -/
def extreme? (isLast : Bool) (vs : List Value) : Option Value :=
  let takes (best v : Value) : Bool :=
    if isLast then v.compare best != .lt else v.compare best == .lt
  vs.foldl (fun best? v => some (best?.elim v fun best => if takes best v then v else best)) none

namespace Value

/-- What a path leads to in a value, or something else if it leads to nothing. -/
def pathOr (v : Value) (path : Text) (default : Value) : Value :=
  match v.path path with
  | .ok w => if w.isUndefined then default else w
  | .error _ => default

/-! ## Parts of lists and maps -/

/-- The items of a value that is to become a list. -/
def itemsAsList (v : Value) : Except Error (List Value) :=
  match v.items? with
  | some vs => .ok vs
  | Option.none => .error (.invalid "cannot convert value to list")

/-- The entries of a map. -/
def entries : Value → Except Error (List (Value × Value))
  | map _ _ entries => .ok entries
  | _ => .error (.invalid "cannot convert value into pair list")

/-- An entry of a map as a list of its key and its value. -/
def ofEntry (entry : Value × Value) : Value := ofList [entry.1, entry.2]

/-- The number of items of a value. -/
def length (v : Value) : Except Error Value :=
  match v.size? with
  | some n => .ok (ofNat n)
  | Option.none => .error (.invalid ("cannot calculate length of value of type " ++ v.kind))

/-- A value with its items in the opposite order. -/
def reversed : Value → Except Error Value
  | undefined => .ok undefined
  | none => .ok none
  | text t _ => .ok (ofText t.reverse)
  | v =>
    match v.contents? with
    | some vs => .ok (ofItems .counted vs.reverse)
    | Option.none => .error (.invalid ("cannot reverse values of type " ++ v.kind))

/-- The first item of a value. -/
def first : Value → Except Error Value
  | text t _ => .ok (t.head?.elim undefined fun c => ofText [c])
  | v =>
    match v.contents? with
    | some vs => .ok (vs.head?.getD undefined)
    | Option.none => .error (.invalid "cannot get first item from value")

/-- The last item of a value. -/
def last : Value → Except Error Value
  | text t _ => .ok (t.getLast?.elim undefined fun c => ofText [c])
  | list _ _ vs => .ok (vs.getLast?.getD undefined)
  | _ => .error (.invalid "cannot get last item from value")

/-- Items as texts with another text between them. Where text is escaped, a safe item or a safe
text between them makes all of it safe, and what is not is escaped. -/
def joined (isEscaping : Bool) (separator : Value) (vs : List Value) : Value :=
  if isEscaping && (separator.isSafe || vs.any isSafe) then
    .text (Text.join separator.escaped (vs.map escaped)) true
  else ofText (Text.join separator.display (vs.map display))

end Value

/-! ## Cutting lists into lists -/

/-- Lists of `size` items each, but perhaps the last. -/
def chunksOf {α : Type} (size : Nat) : (bound : Nat) → List α → List (List α)
  | 0, _ => []
  | _, [] => []
  | bound + 1, vs => vs.take size :: chunksOf size bound (vs.drop size)

/-- Fills a list up to a size. -/
def fillUp (size : Nat) (filler? : Option Value) (vs : List Value) : List Value :=
  match filler? with
  | some filler => vs ++ List.replicate (size - vs.length) filler
  | none => vs

/-- A number of lists of nearly the same length, of which the first ones may have one item more.
Those that do not get the filler. -/
def portions (count : Nat) (filler? : Option Value) (vs : List Value) : List Value :=
  let least := vs.length / count
  let longer := vs.length % count
  (List.range count).map fun i =>
    let part := (vs.drop (i * least + min i longer)).take (least + if i < longer then 1 else 0)
    .ofList (if i < longer then part else part ++ filler?.toList)

/-! ## Groups -/

/-- Neighbours that have the same key, with that of the last of them. -/
def groupsOf (isCased : Bool) (key : Value → Value) : List Value → List (Value × List Value)
  | [] => []
  | v :: rest =>
    match groupsOf isCased key rest with
    | (k, vs) :: more =>
      let next := key (vs.headD v)
      if compareCased isCased (key v) next == .eq then (k, v :: vs) :: more
      else (key v, [v]) :: (k, vs) :: more
    | [] => [(key v, [v])]

/-- Items whose keys are all different, the first of each key. -/
def firstOfEach (key : Value → Value) : (seen : List Value) → List Value → List Value
  | _, [] => []
  | seen, v :: rest =>
    if seen.any fun k => k.compare (key v) == .eq then firstOfEach key seen rest
    else v :: firstOfEach key (key v :: seen) rest

/-- Lists put together item by item, as long as all of them have one. -/
def zipAll : (bound : Nat) → List (List Value) → List Value
  | 0, _ => []
  | bound + 1, lists =>
    if lists.any List.isEmpty then []
    else .ofList (lists.filterMap List.head?) :: zipAll bound (lists.map List.tail)

/-! ## The filters -/

namespace Filter

/-- The items of a value as texts, with another text between them. -/
def join (isEscaping : Bool) : Builtin := do
  let v ← Arguments.value
  let separator? ← Arguments.optional Value.asMarkedText
  return do
    let (t, isSafe) := separator?.getD ([], false)
    match v.items? with
    | some vs => return Value.joined isEscaping (.text t isSafe) vs
    | none => throw (.invalid ("cannot join value of type " ++ v.kind))

/-- The items of a value as a list. -/
def list : Builtin := onValue fun v => v.itemsAsList.map .ofList

/-- The entries of a map as lists of two. -/
def items : Builtin :=
  onValue fun v => v.entries.map fun es => .ofItems .counted (es.map Value.ofEntry)

/-- The least or the greatest item of a value. -/
def extreme (isLast : Bool) : Builtin := onValue fun v => do
  return (extreme? isLast (← v.itemsAsList)).getD .undefined

/-- The entries of a map in the order of their keys or values. -/
def sortedEntries : Builtin := do
  let v ← Arguments.value
  let named ← Arguments.named
  return do
    let entries ← v.entries
    let byValue := (← named.optional "by" Value.asString) == some "value".toList
    let isCased ← named.isSet "case_sensitive"
    let isReversed ← named.isSet "reverse"
    named.only ["by", "case_sensitive", "reverse"]
    let key (entry : Value × Value) : Value := if byValue then entry.2 else entry.1
    let sorted := arrange (fun a b => compareCased isCased (key a) (key b)) isReversed entries
    return .ofList (sorted.map Value.ofEntry)

/-- The items of a value in their order, or in that of what a path leads to in them. -/
def sort : Builtin := do
  let v ← Arguments.value
  let named ← Arguments.named
  return do
    let vs ← v.itemsAsList
    let isCased ← named.isSet "case_sensitive"
    let path? ← named.optional "attribute" Value.asString
    let order (a b : Value) : Ordering :=
      match path? with
      | none => compareCased isCased a b
      | some path =>
        match a.path path, b.path path with
        | .ok a, .ok b => compareCased isCased a b
        | _, _ => .eq
    let isReversed ← named.isSet "reverse"
    named.only ["attribute", "case_sensitive", "reverse"]
    return .ofList (arrange order isReversed vs)

/-- Refuses to make no lists at all. -/
def positiveCount (count : Nat) : Except Error Unit :=
  if count = 0 then .error (.invalid "count cannot be 0") else .ok ()

/-- Lists of a number of items each. -/
def batch : Builtin := do
  let v ← Arguments.value
  let count ← Arguments.required Value.asNatural
  let filler? ← Arguments.value?
  return do
    positiveCount count
    let vs ← v.items
    let parts := chunksOf count vs.length vs
    return .ofList (parts.map fun part => .ofList (fillUp count filler? part))

/-- A number of lists of nearly the same length. -/
def slice : Builtin := do
  let v ← Arguments.value
  let count ← Arguments.required Value.asNatural
  let filler? ← Arguments.value?
  return do
    positiveCount count
    return .ofList (portions count filler? (← v.items))

/-- The items of a value in groups of those for which a path leads to the same. -/
def group : Builtin := do
  let v ← Arguments.value
  let named ← Arguments.named
  let path? ← Arguments.optional Value.asString
  return do
    let default := (← named.optional "default" .ok).getD .undefined
    let isCased ← named.isSet "case_sensitive"
    let path ←
      match path? with
      | some path => pure path
      | none =>
        match Value.lookup? (.ofText "attribute") named with
        | some v => v.asString
        | none =>
          throw
            { kind := .missingArgument
              detail? := some "missing keyword argument 'attribute'" }
    let key (v : Value) : Value := v.pathOr path default
    let vs := Value.sortBy (fun a b => compareCased isCased (key a) (key b)) (← v.items)
    let own : List Text := if path?.isSome then [] else ["attribute"]
    named.only ("case_sensitive" :: "default" :: own)
    return .ofList ((groupsOf isCased key vs).map fun (k, items) =>
      .ofItems .group [k, .ofItems .counted items])

/-- The items of a value without those that came before. -/
def unique : Builtin := do
  let v ← Arguments.value
  let named ← Arguments.named
  return do
    let path? ← named.optional "attribute" Value.asString
    let isCased ← named.isSet "case_sensitive"
    named.only ["attribute", "case_sensitive"]
    let key (v : Value) : Value :=
      let v := path?.elim v fun path => v.pathOr path .undefined
      match isCased, v.asText? with
      | false, some t => .ofText t.lower
      | _, _ => v
    return .ofList (firstOfEach key [] (← v.items))

/-- Values one behind the other: maps become one map, in which later entries count, and all else
becomes one list. A value that has no items breaks the list where they would come. -/
def chain : Builtin := do
  let vs := (← Arguments.value) :: (← Arguments.rest)
  return match vs.mapM fun v => v.entries.toOption with
    | some entries => .ok (Value.ofEntries entries.flatten)
    | none =>
      let areThere := vs.all fun v => v.kind == ("sequence" : Text)
      let itemsOf (v : Value) : List Value :=
        match v.items with
        | .ok items => items
        | .error e => [.broken e]
      .ok (.ofItems (if areThere then .sequence else .uncounted) (vs.flatMap itemsOf))

/-- Values put together item by item. -/
def zip : Builtin := do
  let vs := (← Arguments.value) :: (← Arguments.rest)
  return do
    let lists ← vs.mapM fun v =>
      match v.items? with
      | some items => .ok items
      | none => .error (.invalid ("zip filter argument must be iterable, got " ++ v.kind))
    return .ofItems .uncounted (zipAll lists.flatten.length lists)

/-- What a value holds at a key. -/
def attr : Builtin := do
  let v ← Arguments.value
  let key ← Arguments.value
  return v.found (v.part? key)

/-- A value, or another one if it is undefined, or, if asked for, false. -/
def default : Builtin := .sure do
  let v ← Arguments.value
  let other ← Arguments.value?
  let isLax ← Arguments.boolean?
  if v.isUndefined || (isLax.getD false && !v.isTrue) then return other.getD (.ofText [])
  return v

end Filter

end PatchTrail.Template
