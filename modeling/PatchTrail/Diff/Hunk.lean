import PatchTrail.Diff.Compaction
import PatchTrail.Text.Numeral

/-!
# Hunks

A hunk shows neighbouring changes with the lines around them. Changes belong to one hunk if at most
twice the context lies between them; kept lines further away are left out.
-/

namespace PatchTrail.Diff

/-- How a line of a hunk relates to the two sides. -/
inductive Mark where
  | kept
  | deleted
  | inserted
deriving DecidableEq, Repr

/-- The character that a marked line begins with. -/
def Mark.char : Mark → Char
  | .kept => ' '
  | .deleted => '-'
  | .inserted => '+'

/-- A hunk: where its two sides begin, counted from zero, how many lines they have, and the lines
with their marks. -/
structure Hunk where
  oldStart : Nat
  oldCount : Nat
  newStart : Nat
  newCount : Nat
  lines : List (Mark × Text)
deriving DecidableEq, Repr

/-- Cuts the kept lines at the beginning of a difference down to the context. -/
def clipFirst (context : Nat) : List Edit → List Edit
  | .keep old new count :: rest =>
    let offset := count - context
    .keep (old + offset) (new + offset) (count - offset) :: rest
  | es => es

/-- Cuts the kept lines at the end of a difference down to the context. -/
def clipLast (context : Nat) (es : List Edit) : List Edit :=
  match es.reverse with
  | .keep old new count :: rest => (Edit.keep old new (min count context) :: rest).reverse
  | _ => es

/-- Cuts a difference where more than twice the context is kept. `group` holds the edits of the
group being built, last first. -/
def cutGroups (context : Nat) : List Edit → (group : List Edit) → List (List Edit)
  | [], group =>
    match group with
    | [] => []
    | [.keep ..] => []
    | _ => [group.reverse]
  | .keep old new count :: rest, group =>
    if context * 2 < count then
      let offset := count - context
      (Edit.keep old new context :: group).reverse
        :: cutGroups context rest [.keep (old + offset) (new + offset) (count - offset)]
    else cutGroups context rest (.keep old new count :: group)
  | e :: rest, group => cutGroups context rest (e :: group)

/-- The groups of edits that make up the hunks. -/
def groups (context : Nat) (es : List Edit) : List (List Edit) :=
  if es = [] then [] else cutGroups context (clipLast context (clipFirst context es)) []

/-- The marked lines of one edit. -/
def Edit.marked (xs ys : List Text) (e : Edit) : List (Mark × Text) :=
  match e with
  | .keep .. => (e.taken xs).map fun line => (.kept, line)
  | .delete .. => (e.taken xs).map fun line => (.deleted, line)
  | .insert .. => (e.given ys).map fun line => (.inserted, line)
  | .replace .. =>
    ((e.taken xs).map fun line => (.deleted, line))
      ++ (e.given ys).map fun line => (.inserted, line)

/-- The hunk of a group of edits. Its sides reach from the beginning of the first edit to the end
of the last. -/
def Hunk.ofGroup? (xs ys : List Text) (group : List Edit) : Option Hunk :=
  match group, group.getLast? with
  | first :: _, some last =>
    let oldStart := first.oldSide.1
    let newStart := first.newSide.1
    some
      { oldStart
        oldCount := last.oldSide.1 + last.oldSide.2 - oldStart
        newStart
        newCount := last.newSide.1 + last.newSide.2 - newStart
        lines := group.flatMap (Edit.marked xs ys) }
  | _, _ => none

/-- The hunks between two sequences of lines. -/
def hunks (context : Nat) (xs ys : List Text) : List Hunk :=
  (groups context (difference xs ys)).filterMap (Hunk.ofGroup? xs ys)

end PatchTrail.Diff
