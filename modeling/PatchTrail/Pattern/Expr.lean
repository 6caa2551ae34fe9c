import PatchTrail.Pattern.Fault

/-!
# Patterns as they are written

The parts of a pattern with the stretches that they take up. What a part means depends on the flags
around it, which is settled later.
-/

namespace PatchTrail.Pattern

/-- The flags of a pattern. -/
inductive Flag where
  | caseless
  | multiLine
  | dotAll
  | lazy
  | unicode
  | crlf
  | spaced
deriving DecidableEq, Repr

/-- One sign of a list of flags. -/
inductive FlagItem where
  | flag (f : Flag)
  | negation
deriving DecidableEq, Repr

/-- Whether a list of flags sets a flag (`some true`), clears it or does not mention it. -/
def flagState (f : Flag) : List FlagItem → Option Bool
  | items => go true items
where
  /-- Looks for the flag, knowing whether flags are being set or cleared. -/
  go (setting : Bool) : List FlagItem → Option Bool
    | [] => none
    | .negation :: rest => go false rest
    | .flag g :: rest => if g = f then some setting else go setting rest

/-- A character of a pattern. `isByte` says that it was written as a byte of two digits. -/
structure Literal where
  span : Span
  char : Char
  isByte : Bool := false
deriving DecidableEq, Repr

/-- The classes that have a letter of their own. -/
inductive Shorthand where
  | digit
  | space
  | word
deriving DecidableEq, Repr

/-- The classes that have a name in brackets. -/
inductive NamedClass where
  | alnum
  | alpha
  | ascii
  | blank
  | cntrl
  | digit
  | graph
  | lower
  | print
  | punct
  | space
  | upper
  | word
  | xdigit
deriving DecidableEq, Repr

/-- How a property of characters is named. -/
inductive PropertyName where
  | letter (c : Char)
  | name (t : Text)
  /-- A property that has one of several values; perhaps the characters meant are those for which
  it has another value. -/
  | valued (isOther : Bool) (name value : Text)
deriving DecidableEq, Repr

/-- The operations on classes. -/
inductive ClassOp where
  | intersection
  | difference
  | symmetricDifference
deriving DecidableEq, Repr

/-- What a class in brackets consists of. -/
inductive ClassExpr where
  | empty
  | literal (l : Literal)
  | range (span : Span) (first last : Literal)
  | named (span : Span) (negated : Bool) (c : NamedClass)
  | property (span : Span) (negated : Bool) (p : PropertyName)
  | shorthand (span : Span) (negated : Bool) (s : Shorthand)
  | bracket (span : Span) (negated : Bool) (inner : ClassExpr)
  | union (span : Span) (items : List ClassExpr)
  | binary (span : Span) (op : ClassOp) (left right : ClassExpr)

/-- A condition on a position. -/
inductive Assertion where
  | lineStart
  | lineEnd
  | textStart
  | textEnd
  | boundary
  | noBoundary
  | wordStart
  | wordEnd
  | wordStartHalf
  | wordEndHalf
deriving DecidableEq, Repr

/-- What a group is for. -/
inductive GroupKind where
  | numbered (index : Nat)
  | plain (flags : List FlagItem)
deriving DecidableEq, Repr

/-- A pattern or a part of one. -/
inductive Expr where
  | empty
  | flags (items : List FlagItem)
  | literal (l : Literal)
  | dot (span : Span)
  | assertion (span : Span) (a : Assertion)
  | property (span : Span) (negated : Bool) (p : PropertyName)
  | shorthand (span : Span) (negated : Bool) (s : Shorthand)
  | bracket (span : Span) (negated : Bool) (inner : ClassExpr)
  | repetition (span : Span) (least : Nat) (most? : Option Nat) (greedy : Bool) (sub : Expr)
  | group (span : Span) (kind : GroupKind) (sub : Expr)
  | alternation (span : Span) (choices : List Expr)
  | sequence (span : Span) (parts : List Expr)

namespace ClassExpr

/-- The stretch of a part of a class. -/
def span : ClassExpr → Span
  | empty => ⟨0, 0⟩
  | literal l => l.span
  | range s _ _ => s
  | named s _ _ => s
  | property s _ _ => s
  | shorthand s _ _ => s
  | bracket s _ _ => s
  | union s _ => s
  | binary s _ _ _ => s

/-- Items put together; a single one stands for itself. -/
def ofItems : List ClassExpr → ClassExpr
  | [] => empty
  | [item] => item
  | items =>
    let start := (items.head?.map fun i => i.span.start).getD 0
    let stop := (items.getLast?.map fun i => i.span.stop).getD 0
    union ⟨start, stop⟩ items

/-- The first part that is nested deeper than `room` allows. -/
def tooDeep? : (room : Nat) → ClassExpr → Option Span
  | 0, bracket s _ _ => some s
  | room + 1, bracket _ _ inner => inner.tooDeep? room
  | 0, union s _ => some s
  | room + 1, union _ items => firstTooDeep? room items
  | 0, binary s _ _ _ => some s
  | room + 1, binary _ _ left right => (left.tooDeep? room).or (right.tooDeep? room)
  | _, _ => none
where
  /-- The first part of some items that is nested too deep. -/
  firstTooDeep? (room : Nat) : List ClassExpr → Option Span
    | [] => none
    | item :: rest => (item.tooDeep? room).or (firstTooDeep? room rest)

end ClassExpr

namespace Expr

/-- Where a part begins. -/
def start : Expr → Nat
  | literal l => l.span.start
  | dot s => s.start
  | assertion s _ => s.start
  | property s _ _ => s.start
  | shorthand s _ _ => s.start
  | bracket s _ _ => s.start
  | repetition s _ _ _ _ => s.start
  | group s _ _ => s.start
  | alternation s _ => s.start
  | sequence s _ => s.start
  | empty => 0
  | flags _ => 0

/-- Parts in sequence; a single one stands for itself. -/
def ofParts (span : Span) : List Expr → Expr
  | [] => empty
  | [part] => part
  | parts => sequence span parts

/-- The first part that is nested deeper than `room` allows. -/
def tooDeep? : (room : Nat) → Expr → Option Span
  | 0, bracket s _ _ => some s
  | room + 1, bracket _ _ inner => inner.tooDeep? room
  | 0, repetition s _ _ _ _ => some s
  | room + 1, repetition _ _ _ _ sub => sub.tooDeep? room
  | 0, group s _ _ => some s
  | room + 1, group _ _ sub => sub.tooDeep? room
  | 0, alternation s _ => some s
  | room + 1, alternation _ choices => firstTooDeep? room choices
  | 0, sequence s _ => some s
  | room + 1, sequence _ parts => firstTooDeep? room parts
  | _, _ => none
where
  /-- The first of some parts that is nested too deep. -/
  firstTooDeep? (room : Nat) : List Expr → Option Span
    | [] => none
    | part :: rest => (part.tooDeep? room).or (firstTooDeep? room rest)

end Expr

end PatchTrail.Pattern
