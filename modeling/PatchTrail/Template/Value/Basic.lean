import PatchTrail.Decimal.Numeral
import PatchTrail.Template.Error
import PatchTrail.Text.Quoted

/-!
# Values of template expressions

Values have kinds, by which they are named in errors and ordered before anything else. Every value
counts as true or false, and can be written as text: on its own (`Value.display`) or inside of a
list or map (`Value.describe`), where texts are quoted and undefined values can be seen.
-/

namespace PatchTrail.Template

/-- How the items of a list are kept. -/
inductive Extent where
  /-- The items are there. -/
  | sequence
  /-- The items are there: what they have in common, and a list of them. -/
  | group
  /-- The items are produced one after the other, and their number is known. -/
  | counted
  /-- The items are produced one after the other, and their number is not known before. -/
  | uncounted
deriving DecidableEq, Repr

/-- What a map is besides its entries. -/
inductive Nature where
  | plain
  /-- Named arguments that are handed over. -/
  | arguments
  /-- Variables that can be changed from everywhere, by their position among all sets of them. The
  entries are the variables as they were when the map was looked at. -/
  | space (index : Nat)
  /-- A macro of the template, by its position among all that have been declared. -/
  | macroRef (index : Nat) (name : Text)
  /-- The state of a loop at an item. -/
  | loop (index : Nat) (size? : Option Nat)
deriving DecidableEq, Repr

/-- A value. Lists and maps have numbers: two of them are the same if they have the same number,
and those with the number zero are the same as no other. -/
inductive Value where
  | undefined
  | none
  | boolean (b : Bool)
  | integer (i : Int)
  | decimal (x : Float)
  /-- A text, which is safe if nothing in it needs to be escaped any more. -/
  | text (t : Text) (isSafe : Bool)
  | list (id : Nat) (extent : Extent) (items : List Value)
  | map (id : Nat) (nature : Nature) (entries : List (Value × Value))
  /-- A function that every template knows. -/
  | function (name : Text)
  /-- An item that could not be produced. -/
  | broken (why : Error)

instance : Inhabited Value := ⟨.undefined⟩

namespace Value

/-- A text without a promise. -/
abbrev ofText (t : Text) : Value := .text t false

/-- A number as a value. -/
abbrev ofNat (n : Nat) : Value := .integer n

/-- A list without a number. -/
abbrev ofItems (extent : Extent) (vs : List Value) : Value := .list 0 extent vs

/-- A list of items that are there. -/
abbrev ofList (vs : List Value) : Value := .ofItems .sequence vs

/-! ## Kinds -/

/-- The kind of a value by its rank. -/
def rank : Value → Nat
  | undefined => 0
  | none => 1
  | boolean _ => 2
  | integer _ => 3
  | decimal _ => 3
  | text _ _ => 4
  | list _ .sequence _ => 6
  | list _ .group _ => 6
  | map _ _ _ => 7
  | list _ _ _ => 8
  | function _ => 9
  | broken _ => 10

/-- The kind of a value in words. -/
def kind : Value → Text
  | undefined => "undefined"
  | none => "none"
  | boolean _ => "bool"
  | integer _ => "number"
  | decimal _ => "number"
  | text _ _ => "string"
  | list _ .sequence _ => "sequence"
  | list _ .group _ => "sequence"
  | list _ _ _ => "iterator"
  | map _ _ _ => "map"
  | function _ => "plain object"
  | broken _ => "invalid value"

/-- Whether a value is undefined. -/
def isUndefined : Value → Bool
  | undefined => true
  | _ => false

/-- Whether a value is undefined or nothing. -/
def isMissing : Value → Bool
  | undefined => true
  | none => true
  | _ => false

/-- Whether a value counts as true. -/
def isTrue : Value → Bool
  | undefined => false
  | none => false
  | boolean b => b
  | integer i => i != 0
  | decimal x => x != 0.0
  | text t _ => !t.isEmpty
  | list _ .uncounted _ => true
  | list _ _ vs => !vs.isEmpty
  | map _ _ es => !es.isEmpty
  | function _ => true
  | broken _ => false

/-- Whether a value is a text in which nothing needs to be escaped any more. -/
def isSafe : Value → Bool
  | text _ isSafe => isSafe
  | _ => false

/-- The text that a value is. -/
def asText? : Value → Option Text
  | text t _ => some t
  | _ => Option.none

/-! ## Writing -/

/-- How a decimal is written on its own. -/
def displayLayout : Decimal.Layout := ⟨Option.none, Option.none, false⟩

/-- How a decimal is written inside of a list or map: around a point from `10^-4` up to `10^16`. -/
def describeLayout : Decimal.Layout := ⟨some (-4), some 16, false⟩

/-- A number of double precision in a layout. -/
def renderDecimal (layout : Decimal.Layout) (x : Float) : Text :=
  if x.isNaN then "NaN"
  else if x.isInf then if x < 0 then "-inf" else "inf"
  else layout.renderFloat x

/-- A truth value as it is written. -/
def renderBoolean (b : Bool) : Text := if b then "True" else "False"

/-- An entry of a map as it is written. -/
def renderEntry (key value : Text) : Text := key ++ ": " ++ value

/-- Entries of a map as they are written. -/
def renderEntries (entries : List Text) : Text := '{' :: (Text.join ", " entries ++ ['}'])

mutual

/-- A value as it is written inside of a list or map. -/
def describe : Value → Text
  | undefined => "undefined"
  | none => "None"
  | boolean b => renderBoolean b
  | integer i => Text.ofInt i
  | decimal x => renderDecimal describeLayout x
  | text t _ => t.quoted
  | list _ .uncounted _ => "<iterator>"
  | list _ _ vs => Text.describeList (describeItems vs)
  | map _ (.macroRef _ name) _ => "<macro " ++ name ++ ">"
  | map _ (.loop index size?) _ =>
    "<loop " ++ Text.ofNat index ++ "/" ++ (size?.elim "?".toList Text.ofNat) ++ ">"
  | map _ _ es => renderEntries (describeEntries es)
  | function name => name
  | broken why => "<invalid value: " ++ why.summary ++ ">"

/-- Items as they are written inside of a list. -/
def describeItems : List Value → List Text
  | [] => []
  | v :: rest => v.describe :: describeItems rest

/-- Entries as they are written inside of a map. -/
def describeEntries : List (Value × Value) → List Text
  | [] => []
  | (k, v) :: rest => renderEntry k.describe v.describe :: describeEntries rest

end

/-- A value as it is written on its own. -/
def display : Value → Text
  | undefined => []
  | text t _ => t
  | decimal x => renderDecimal displayLayout x
  | v => v.describe

/-! ## Parts -/

/-- The number of items, if it is known. -/
def size? : Value → Option Nat
  | text t _ => some t.length
  | list _ .uncounted _ => Option.none
  | list _ _ vs => some vs.length
  | map _ _ es => some es.length
  | _ => Option.none

/-- The items of a list, or the keys of a map. -/
def contents? : Value → Option (List Value)
  | list _ _ vs => some vs
  | map _ _ es => some (es.map Prod.fst)
  | _ => Option.none

/-- What a loop over a value runs through. -/
def items? : Value → Option (List Value)
  | undefined => some []
  | none => some []
  | text t _ => some (t.map fun c => ofText [c])
  | v => v.contents?

/-- What a loop over a value runs through, or an error. -/
def items (v : Value) : Except Error (List Value) :=
  match v.items? with
  | some vs => .ok vs
  | Option.none => .error (.invalid (v.kind ++ " is not iterable"))

end Value

/-!
## Writing on several lines

A list or map that is not empty is written with every item on a line of its own, four columns
further to the right than the brackets around it.
-/

/-- How far the items of a list or map are moved to the right. -/
def layoutIndent : Text := "    "

/-- A text with every line but the first moved to the right. -/
def indentRest (t : Text) : Text :=
  t.flatMap fun c => if c = '\n' then c :: layoutIndent else [c]

/-- Parts between brackets, every part on a line of its own. -/
def layoutParts (first last : Char) (parts : List Text) : Text :=
  if parts.isEmpty then [first, last]
  else
    let lines := parts.flatMap fun p => layoutIndent ++ indentRest p ++ [',', '\n']
    first :: '\n' :: (lines ++ [last])

namespace Value

mutual

/-- A value on several lines. -/
def layout : Value → Text
  | list id .uncounted vs => (list id .uncounted vs).describe
  | list _ _ vs => layoutParts '[' ']' (layoutItems vs)
  | map id (.macroRef i name) es => (map id (.macroRef i name) es).describe
  | map id (.loop i size?) es => (map id (.loop i size?) es).describe
  | map _ _ es => layoutParts '{' '}' (layoutEntries es)
  | v => v.describe

/-- The items of a list on several lines each. -/
def layoutItems : List Value → List Text
  | [] => []
  | v :: rest => v.layout :: layoutItems rest

/-- The entries of a map on several lines each. -/
def layoutEntries : List (Value × Value) → List Text
  | [] => []
  | (k, v) :: rest => renderEntry k.layout v.layout :: layoutEntries rest

end

end Value

/-!
## Escaping

Text that is put into a page must not contain signs that mean something there. A text that is safe
stays as it is.
-/

/-- A character in a page. -/
def escapeChar (c : Char) : Text :=
  match c with
  | '<' => "&lt;"
  | '>' => "&gt;"
  | '&' => "&amp;"
  | '"' => "&quot;"
  | '\'' => "&#x27;"
  | '/' => "&#x2f;"
  | c => [c]

/-- A text in a page. -/
def escape (t : Text) : Text := t.flatMap escapeChar

/-- A value in a page. -/
def Value.escaped : Value → Text
  | .text t true => t
  | v => escape v.display

/-- A value as it is put into the output. -/
def Value.emitted (isEscaping : Bool) (v : Value) : Text :=
  if isEscaping then v.escaped else v.display

end PatchTrail.Template
