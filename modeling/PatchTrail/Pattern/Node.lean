import PatchTrail.Pattern.Expr
import PatchTrail.Unicode.Ranges

/-!
# What a pattern means

A meaning says what is matched without flags and without names: characters of a set, conditions on
a position, repetitions, groups, sequences and choices.
-/

namespace PatchTrail.Pattern

/-- A condition on a position. Word boundaries come with the set of the characters of words. -/
inductive Look where
  | start
  | stop
  | startLine
  | endLine
  | startLineCrlf
  | endLineCrlf
  | boundary (ascii : Bool)
  | noBoundary (ascii : Bool)
  | wordStart (ascii : Bool)
  | wordEnd (ascii : Bool)
  | wordStartHalf (ascii : Bool)
  | wordEndHalf (ascii : Bool)
deriving DecidableEq, Repr

/-- A meaning. -/
inductive Node where
  | empty
  | literal (c : Char)
  | set (s : Unicode.Ranges)
  | look (l : Look)
  | repetition (least : Nat) (most? : Option Nat) (greedy : Bool) (sub : Node)
  | group (index : Nat) (sub : Node)
  | sequence (parts : List Node)
  | choice (choices : List Node)

namespace Node

/-- Whether every match has at least one character. -/
def consumes : Node → Bool
  | empty => false
  | literal _ => true
  | set _ => true
  | look _ => false
  | repetition least _ _ sub => decide (0 < least) && sub.consumes
  | group _ sub => sub.consumes
  | sequence parts => anyConsumes parts
  | choice choices => allConsume choices
where
  /-- Whether one of some parts always takes a character. -/
  anyConsumes : List Node → Bool
    | [] => false
    | n :: rest => n.consumes || anyConsumes rest
  /-- Whether all of some choices always take a character. -/
  allConsume : List Node → Bool
    | [] => true
    | n :: rest => n.consumes && allConsume rest

/-- The text that a meaning consists of, if it is nothing but characters in sequence. -/
def literal? : Node → Option Text
  | empty => some []
  | literal c => some [c]
  | sequence parts => literals? parts
  | _ => none
where
  /-- The text that some parts consist of. -/
  literals? : List Node → Option Text
    | [] => some []
    | n :: rest =>
      match n.literal?, literals? rest with
      | some s, some t => some (s ++ t)
      | _, _ => none

end Node

end PatchTrail.Pattern
