import PatchTrail.Pattern.Node
import PatchTrail.Unicode.Age
import PatchTrail.Unicode.Break
import PatchTrail.Unicode.Category
import PatchTrail.Unicode.Fold
import PatchTrail.Unicode.Property
import PatchTrail.Unicode.Script

/-!
# From parts to meanings

Flags hold from where they are set to the end of the group around them. Without the flag for
Unicode, classes are sets of bytes, and what could match a byte that is no character by itself is
refused.
-/

namespace PatchTrail.Pattern

/-- The flags that hold at some place. -/
structure Flags where
  caseless : Bool := false
  multiLine : Bool := false
  dotAll : Bool := false
  isLazy : Bool := false
  unicode : Bool := true
  crlf : Bool := false
deriving DecidableEq, Repr

/-- The flags that hold after a list of flags. -/
def Flags.set (fs : Flags) (items : List FlagItem) : Flags :=
  { caseless := (flagState .caseless items).getD fs.caseless
    multiLine := (flagState .multiLine items).getD fs.multiLine
    dotAll := (flagState .dotAll items).getD fs.dotAll
    isLazy := (flagState .lazy items).getD fs.isLazy
    unicode := (flagState .unicode items).getD fs.unicode
    crlf := (flagState .crlf items).getD fs.crlf }

open Unicode (Ranges)

/-! ## Sets of characters -/

/-- The set of all code points. -/
def everything : Ranges := #[(0, Ranges.top)]

/-- A set with all characters that differ from one of its own in case only. -/
def foldCase (unicode : Bool) (s : Ranges) : Ranges :=
  if unicode then
    Ranges.union s
      (Ranges.ofList
        (s.toList.flatMap fun (low, high) => (Unicode.Fold.closure low high).map fun c => (c, c)))
  else
    let shifted (low high : Nat) (move : Nat → Nat) : Ranges :=
      (Ranges.intersection s #[(low, high)]).map fun (a, b) => (move a, move b)
    Ranges.union s (Ranges.union (shifted 65 90 (· + 32)) (shifted 97 122 (· - 32)))

/-- The set of a shorthand, among ASCII or all characters. -/
def Shorthand.set (unicode : Bool) : Shorthand → Ranges
  | digit => if unicode then Ranges.ofHex Unicode.Property.digit else #[(48, 57)]
  | space => if unicode then Ranges.ofHex Unicode.Property.space else #[(9, 13), (32, 32)]
  | word =>
    if unicode then Ranges.ofHex Unicode.Property.word
    else #[(48, 57), (65, 90), (95, 95), (97, 122)]

/-- The set of a class with a name, which is always one of ASCII characters. -/
def NamedClass.set : NamedClass → Ranges
  | alnum => #[(48, 57), (65, 90), (97, 122)]
  | alpha => #[(65, 90), (97, 122)]
  | ascii => #[(0, 127)]
  | blank => #[(9, 9), (32, 32)]
  | cntrl => #[(0, 31), (127, 127)]
  | digit => #[(48, 57)]
  | graph => #[(33, 126)]
  | lower => #[(97, 122)]
  | print => #[(32, 126)]
  | punct => #[(33, 47), (58, 64), (91, 96), (123, 126)]
  | space => #[(9, 13), (32, 32)]
  | upper => #[(65, 90)]
  | word => #[(48, 57), (65, 90), (95, 95), (97, 122)]
  | xdigit => #[(48, 57), (65, 70), (97, 102)]

/-- Applies case and negation to a set. Case comes first. -/
def foldAndNegate (fs : Flags) (span : Span) (negated : Bool) (s : Ranges) : Except Fault Ranges :=
  let s := if fs.caseless then foldCase fs.unicode s else s
  if fs.unicode then .ok (if negated then Ranges.complement Ranges.top s else s)
  else
    let s := if negated then Ranges.complement 255 s else s
    if s.isBelow 128 then .ok s else .error { reason := .matchesBrokenText, span }

/-- The set of a shorthand with its negation. -/
def shorthandSet (fs : Flags) (span : Span) (negated : Bool) (c : Shorthand) :
    Except Fault Ranges :=
  foldAndNegate { fs with caseless := false } span negated (c.set fs.unicode)

/-- A name in loose form: small letters, without blanks, underscores, dashes and a leading `is`. -/
def looseName (name : Text) : String :=
  let lower := name.map Char.toLower
  let (hasIs, rest) :=
    match lower with
    | 'i' :: 's' :: rest => (true, rest)
    | _ => (false, lower)
  let kept := rest.filter fun c => decide (c.toNat < 128) && c != ' ' && c != '_' && c != '-'
  if hasIs && kept == ['c'] then "isc" else String.ofList kept

/-- The set that several tables of intervals make up. -/
def setOfTables (tables : List String) : Ranges :=
  Ranges.ofList (tables.flatMap fun t => (Ranges.ofHex t).toList)

/-- The set of a general category. -/
def categorySet? (name : String) : Option Ranges :=
  match name with
  | "any" => some everything
  | "ascii" => some #[(0, 127)]
  | "assigned" =>
    (Unicode.Category.intervals? "cn").map fun t => Ranges.complement Ranges.top (setOfTables t)
  | _ => (Unicode.Category.intervals? name).map setOfTables

/-- The category of surrogates, which are no characters. -/
def isSurrogateName (name : String) : Bool := name == "cs" || name == "surrogate"

/-- The set of a property that is named alone. -/
def namedSet (name : String) : Except Reason Ranges :=
  let isCategory := name == "cf" || name == "sc" || name == "lc"
  let asProperty := if isCategory then none else Unicode.Property.intervals? name
  match asProperty with
  | some t => .ok (Ranges.ofHex t)
  | none =>
    match (categorySet? name).or ((Unicode.Script.intervals? name).map Ranges.ofHex) with
    | some s => .ok s
    | none => .error (if isSurrogateName name then .unknownPropertyValue else .unknownProperty)

/-- The set of a property that has one of several values. -/
def valuedSet (name value : String) : Except Reason Ranges :=
  let found : Option Ranges → Except Reason Ranges
    | some s => .ok s
    | none => .error .unknownPropertyValue
  let ofBreak (table : List (List String × String)) : Except Reason Ranges :=
    found ((Unicode.Break.intervals? table value).map Ranges.ofHex)
  match name with
  | "gc" | "generalcategory" => found (categorySet? value)
  | "sc" | "script" => found ((Unicode.Script.intervals? value).map Ranges.ofHex)
  | "scx" | "scriptextensions" =>
    found ((Unicode.Script.extendedIntervals? value).map Ranges.ofHex)
  | "age" => found ((Unicode.Age.intervals? value).map setOfTables)
  | "gcb" | "graphemeclusterbreak" => ofBreak Unicode.Break.grapheme
  | "wb" | "wordbreak" => ofBreak Unicode.Break.word
  | "sb" | "sentencebreak" => ofBreak Unicode.Break.sentence
  | _ =>
    if (Unicode.Property.intervals? name).isSome || Unicode.Property.unlisted.contains name then
      .error .unknownPropertyValue
    else .error .unknownProperty

/-- Whether the characters meant are those that a name does not stand for. -/
def PropertyName.isOther : PropertyName → Bool
  | valued isOther _ _ => isOther
  | _ => false

/-- The set that the name of a property stands for. -/
def PropertyName.set : PropertyName → Except Reason Ranges
  | letter c => namedSet (looseName [c])
  | name t => namedSet (looseName t)
  | valued _ n v => valuedSet (looseName n) (looseName v)

/-- The set of a property with its negation. -/
def propertySet (fs : Flags) (span : Span) (negated : Bool) (p : PropertyName) :
    Except Fault Ranges :=
  if fs.unicode then
    match p.set with
    | .ok s => foldAndNegate fs span (negated != p.isOther) s
    | .error reason => .error { reason, span }
  else .error { reason := .unicodeNotAllowed, span }

/-- The code of a character in a class. -/
def classCode (fs : Flags) (l : Literal) : Except Fault Nat :=
  let code := l.char.toNat
  if fs.unicode || decide (code < 128) then .ok code
  else if l.isByte then .error { reason := .matchesBrokenText, span := l.span }
  else .error { reason := .unicodeNotAllowed, span := l.span }

/-- The set that a class consists of. -/
def ClassExpr.set (fs : Flags) : ClassExpr → Except Fault Ranges
  | empty => .ok #[]
  | literal l => do
    let c ← classCode fs l
    return #[(c, c)]
  | range _ a b => do return #[(← classCode fs a, ← classCode fs b)]
  | named span negated c => foldAndNegate fs span negated c.set
  | property span negated p => propertySet fs span negated p
  | shorthand span negated c => shorthandSet fs span negated c
  | bracket span negated inner => do foldAndNegate fs span negated (← inner.set fs)
  | union _ items => sets fs items
  | binary _ op left right => do
    let l ← left.set fs
    let r ← right.set fs
    let l := if fs.caseless then foldCase fs.unicode l else l
    let r := if fs.caseless then foldCase fs.unicode r else r
    match op with
    | .intersection => return Ranges.intersection l r
    | .difference => return Ranges.difference l r
    | .symmetricDifference => return Ranges.symmetricDifference l r
where
  /-- The union of the sets of some items. -/
  sets (fs : Flags) : List ClassExpr → Except Fault Ranges
    | [] => .ok #[]
    | item :: rest => do
      let s ← item.set fs
      return Ranges.union s (← sets fs rest)

/-! ## Meanings -/

/-- A character, or the set of those that differ from it in case only. -/
def literalNode (fs : Flags) (l : Literal) : Except Fault Node :=
  let code := l.char.toNat
  if ¬ fs.unicode ∧ l.isByte ∧ 128 ≤ code then
    .error { reason := .matchesBrokenText, span := l.span }
  else if fs.caseless then
    let s := foldCase fs.unicode #[(code, code)]
    .ok (if s.size = 1 ∧ s[0]? = some (code, code) then .literal l.char else .set s)
  else .ok (.literal l.char)

/-- The set of characters that the dot stands for. -/
def dotSet (fs : Flags) : Ranges :=
  if fs.dotAll then everything
  else if fs.crlf then Ranges.complement Ranges.top #[(10, 10), (13, 13)]
  else Ranges.complement Ranges.top #[(10, 10)]

/-- What a condition means under some flags. -/
def lookOf (fs : Flags) (a : Assertion) : Look :=
  let ascii := !fs.unicode
  match a with
  | .lineStart =>
    if fs.multiLine then (if fs.crlf then .startLineCrlf else .startLine) else .start
  | .lineEnd => if fs.multiLine then (if fs.crlf then .endLineCrlf else .endLine) else .stop
  | .textStart => .start
  | .textEnd => .stop
  | .boundary => .boundary ascii
  | .noBoundary => .noBoundary ascii
  | .wordStart => .wordStart ascii
  | .wordEnd => .wordEnd ascii
  | .wordStartHalf => .wordStartHalf ascii
  | .wordEndHalf => .wordEndHalf ascii

/-- What a part means, and the flags that hold after it. -/
def Expr.node (fs : Flags) : Expr → Except Fault (Node × Flags)
  | empty => .ok (.empty, fs)
  | flags items => .ok (.empty, fs.set items)
  | literal l => do return (← literalNode fs l, fs)
  | dot span =>
    if fs.unicode then .ok (.set (dotSet fs), fs)
    else .error { reason := .matchesBrokenText, span }
  | assertion _ a => .ok (.look (lookOf fs a), fs)
  | property span negated p => do return (.set (← propertySet fs span negated p), fs)
  | shorthand span negated c => do return (.set (← shorthandSet fs span negated c), fs)
  | bracket span negated inner => do
    return (.set (← foldAndNegate fs span negated (← inner.set fs)), fs)
  | repetition _ least most? greedy sub => do
    let (n, after) ← sub.node fs
    return (.repetition least most? (greedy != after.isLazy) n, after)
  | group _ kind sub =>
    match kind with
    | .plain items => do return ((← sub.node (fs.set items)).1, fs)
    | .numbered index => do return (.group index (← sub.node fs).1, fs)
  | alternation _ choices => do
    let (ns, after) ← nodes fs choices
    return (.choice ns, after)
  | sequence _ parts => do
    let (ns, after) ← nodes fs parts
    return (.sequence ns, after)
where
  /-- What several parts mean one after the other. -/
  nodes (fs : Flags) : List Expr → Except Fault (List Node × Flags)
    | [] => .ok ([], fs)
    | e :: rest => do
      let (n, fs) ← e.node fs
      let (ns, fs) ← nodes fs rest
      return (n :: ns, fs)

end PatchTrail.Pattern
