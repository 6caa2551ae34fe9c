import PatchTrail.Template.Value.Number

/-!
# Equality and order of values

Values of different kinds are ordered by their kinds. Numbers are compared by what they stand for;
lists and maps item by item. Two values can be equal without being of one kind: a truth value
equals the integer that it counts as, and a list equals any other with equal items.
-/

namespace PatchTrail.Template

/-- Compares two numbers of double precision. What is no number comes at either end, depending on
its sign. -/
def compareDecimals (a b : Float) : Ordering :=
  let key (x : Float) : Int :=
    let bits := x.toBits.toNat
    if bits < Width.half64 then bits else (Width.half64 - 1 : Int) - bits
  if a == b then .eq else compare (key a) (key b)

/-- Compares two texts by their characters. -/
def compareTexts : Text → Text → Ordering
  | [], [] => .eq
  | [], _ :: _ => .lt
  | _ :: _, [] => .gt
  | a :: as, b :: bs => (compare a.toNat b.toNat).then (compareTexts as bs)

/-- Compares two values that meet in an operation. -/
def Pair.compare : Pair → Ordering
  | integers a b => Ord.compare a b
  | decimals a b => compareDecimals a b
  | texts a b => compareTexts a b

/-- Whether two values that meet in an operation are equal. -/
def Pair.areEqual : Pair → Bool
  | integers a b => a == b
  | decimals a b => a == b
  | texts a b => a == b

namespace Value

mutual

/-- The order of two values. -/
def compare : Value → Value → Ordering
  | list id e as, b =>
    match b with
    | list _ e' bs =>
      (Ord.compare (list id e []).rank (list id e' []).rank).then (compareItems as bs)
    | b => Ord.compare (list id e []).rank b.rank
  | map id n as, b =>
    match b with
    | map _ _ bs => compareEntries as bs
    | b => Ord.compare (map id n []).rank b.rank
  | a, b =>
    (Ord.compare a.rank b.rank).then
      (match Pair.of? true a b with
      | some pair => pair.compare
      | Option.none => compareTexts a.describe b.describe)

/-- The order of two lists of items. -/
def compareItems : List Value → List Value → Ordering
  | [], [] => .eq
  | [], _ :: _ => .lt
  | _ :: _, [] => .gt
  | a :: as, b :: bs => (a.compare b).then (compareItems as bs)

/-- The order of two lists of entries. -/
def compareEntries : List (Value × Value) → List (Value × Value) → Ordering
  | [], [] => .eq
  | [], _ :: _ => .lt
  | _ :: _, [] => .gt
  | (k, v) :: as, (k', v') :: bs =>
    ((k.compare k').then (v.compare v')).then (compareEntries as bs)

end

/-- The value of a key among entries. -/
def lookup? (key : Value) (entries : List (Value × Value)) : Option Value :=
  (entries.find? fun entry => entry.1.compare key == .eq).map Prod.snd

mutual

/-- Whether two values are equal. -/
def equals : Value → Value → Bool
  | undefined, undefined => true
  | none, none => true
  | list _ _ as, list _ _ bs => equalItems as bs
  | map _ _ as, map _ _ bs => as.length == bs.length && equalEntries as bs
  | function f, function g => f == g
  | a, b => (Pair.of? false a b).any Pair.areEqual

/-- Whether the items of two lists are equal one by one. -/
def equalItems : List Value → List Value → Bool
  | [], [] => true
  | a :: as, b :: bs => a.equals b && equalItems as bs
  | _, _ => false

/-- Whether some entries have equal partners among others. -/
def equalEntries : List (Value × Value) → List (Value × Value) → Bool
  | [], _ => true
  | (k, v) :: as, bs =>
    (match lookup? k bs with
    | some w => v.equals w
    | Option.none => false) && equalEntries as bs

end

/-- Puts an entry into its place among entries, instead of one with the same key. -/
def insertEntry (key value : Value) : List (Value × Value) → List (Value × Value)
  | [] => [(key, value)]
  | (k, v) :: rest =>
    match key.compare k with
    | .eq => (k, value) :: rest
    | .lt => (key, value) :: (k, v) :: rest
    | .gt => (k, v) :: insertEntry key value rest

/-- A map of entries, the last of each key. -/
def ofEntries (entries : List (Value × Value)) : Value :=
  .map 0 .plain (entries.foldl (fun done (k, v) => insertEntry k v done) [])

/-- Sorts values, keeping those in their order that are equal. -/
def sortBy {α : Type} (order : α → α → Ordering) (vs : List α) : List α :=
  vs.mergeSort fun a b => order a b != .gt

/-! ## Items and attributes -/

/-- The position that an index means among some items, counted from the end if it is negative. -/
def position? (size : Nat) (index : Int) : Option Nat :=
  if 0 ≤ index then some index.toNat
  else if index.natAbs ≤ size then some (size - index.natAbs)
  else Option.none

/-- The item of a value at a key. -/
def item? (v key : Value) : Option Value :=
  let index? := key.wholeNumber?.filter (Width.fits Width.half64)
  match v with
  | text t _ => do
    let c ← t[(← position? t.length (← index?))]?
    return ofText [c]
  | list _ .uncounted vs => do
    let index ← index?
    if 0 ≤ index then vs[index.toNat]? else Option.none
  | list _ _ vs => do vs[(← position? vs.length (← index?))]?
  | map _ _ entries => lookup? key entries
  | _ => Option.none

/-- The attribute of a value. -/
def attribute? (v : Value) (name : Text) : Option Value :=
  match v with
  | map _ _ entries => lookup? (ofText name) entries
  | list _ .group vs =>
    match String.ofList name with
    | "grouper" => vs[0]?
    | "list" => vs[1]?
    | _ => Option.none
  | _ => Option.none

/-- What a value holds at a key, which may be the name of an attribute. -/
def part? (v key : Value) : Option Value := (v.item? key).or (key.asText?.bind v.attribute?)

/-- What is looked up in a value, where nothing can be looked up in what is undefined. -/
def found (v : Value) (result? : Option Value) : Except Error Value :=
  match result? with
  | some (broken why) => .error why
  | some w => .ok w
  | Option.none => if v.isUndefined then .error { kind := .undefinedValue } else .ok .undefined

/-- What a path of names and positions with dots between them leads to in a value. -/
def path (v : Value) (names : Text) : Except Error Value :=
  (Text.split '.' names).foldlM
    (fun v name =>
      v.found
        (match Text.toNat? 10 name with
        | some n => v.part? (ofNat n)
        | Option.none => v.attribute? name))
    v

end Value

end PatchTrail.Template
