import PatchTrail.Text.Basic

/-!
# Edits between two sequences

A difference of two sequences is a list of edits in the order of both. Each edit names the stretch
of the old sequence and the stretch of the new one that it speaks of, by position and length;
`Edit.taken` and `Edit.given` are those stretches. A list of edits goes from one sequence to the
other (`Replays`) if its taken stretches are the old sequence, its given ones the new, and kept
stretches agree.
-/

namespace PatchTrail.Diff

/-- One stretch of a difference. -/
inductive Edit where
  /-- `count` lines from position `old` are the `count` lines from position `new`. -/
  | keep (old new count : Nat)
  /-- `count` lines from position `old` are gone; the new side stands at `new`. -/
  | delete (old count new : Nat)
  /-- `count` lines from position `new` have come; the old side stands at `old`. -/
  | insert (old new count : Nat)
  /-- `oldCount` lines from position `old` gave way to `newCount` lines from position `new`. -/
  | replace (old oldCount new newCount : Nat)
deriving DecidableEq, Repr

namespace Edit

variable {α : Type}

/-- Position and length of the old side. -/
def oldSide : Edit → Nat × Nat
  | keep old _ count => (old, count)
  | delete old count _ => (old, count)
  | insert old _ _ => (old, 0)
  | replace old oldCount _ _ => (old, oldCount)

/-- Position and length of the new side. -/
def newSide : Edit → Nat × Nat
  | keep _ new count => (new, count)
  | delete _ _ new => (new, 0)
  | insert _ new count => (new, count)
  | replace _ _ new newCount => (new, newCount)

/-- `count` elements from a position on. -/
def slice (xs : List α) (start count : Nat) : List α := (xs.drop start).take count

/-- The stretch of the old sequence that an edit takes. -/
def taken (xs : List α) (e : Edit) : List α := slice xs e.oldSide.1 e.oldSide.2

/-- The stretch of the new sequence that an edit gives. -/
def given (ys : List α) (e : Edit) : List α := slice ys e.newSide.1 e.newSide.2

/-- Whether an edit keeps what is there. -/
def isKeep : Edit → Bool
  | keep .. => true
  | _ => false

/-- The number of lines that an edit covers on the side where it covers any. -/
def count : Edit → Nat
  | keep _ _ n => n
  | delete _ n _ => n
  | insert _ _ n => n
  | replace _ m _ n => m + n

end Edit

/-- The edits lead from `xs` to `ys`: taken one after the other their old sides are `xs`, their new
sides `ys`, and what is kept is the same on both sides. -/
structure Replays {α : Type} (xs ys : List α) (edits : List Edit) : Prop where
  taken_eq : edits.flatMap (Edit.taken xs) = xs
  given_eq : edits.flatMap (Edit.given ys) = ys
  keep_eq : ∀ e ∈ edits, e.isKeep → e.taken xs = e.given ys

end PatchTrail.Diff
