import PatchTrail.Diff.Section

/-!
# The numbers of changed lines

A reader who wants to know which lines have changed counts them off the ranges in the headers of the
hunks: a deleted line has a number in the old text, an inserted one in the new. `Hunk.readSection?`
reads the hunks of a section with both ranges, and `Hunk.changes` gives the lines of one that have
changed with their numbers.
-/

namespace PatchTrail.Diff

/-! ## Reading hunks with both ranges -/

/-- Reads the ranges in the header of a hunk, if a line is one. -/
def readRanges? (line : Text) : Option ((Nat × Nat) × (Nat × Nat)) := do
  let (ranges, _) ← Text.cut? " @@" (← Text.dropPrefix? "@@ -" line)
  let (old, new) ← Text.cut? " +" ranges
  return (← readRange? old, ← readRange? new)

/-- Where a range begins, counted from zero. An empty range is behind the line that it names. -/
def rangeStart : Nat × Nat → Nat
  | (first, count) => if count = 0 then first else first - 1

/-- Marked lines put together from the lines of a hunk, a line feed behind each that no remark
follows. -/
def HunkLine.joined : List HunkLine → List (Mark × Text)
  | [] => []
  | marked m t :: remark :: rest => (m, t) :: joined rest
  | marked m t :: rest => (m, t ++ ['\n']) :: joined rest
  | remark :: rest => joined rest

/-- Reads hunks from the front of some lines, at most `bound` of them. -/
def Hunk.readLines? : (bound : Nat) → List Text → Option (List Hunk × List Text)
  | 0, lines => some ([], lines)
  | _, [] => some ([], [])
  | bound + 1, line :: rest =>
    if line.startsWith "@@ -" then do
      let (old, new) ← readRanges? line
      let (lines, rest) ← readHunkLines? old.2 new.2 rest
      let (hunks, rest) ← Hunk.readLines? bound rest
      return (⟨rangeStart old, old.2, rangeStart new, new.2, HunkLine.joined lines⟩ :: hunks, rest)
    else some ([], line :: rest)

/-- Reads the hunks of a section with the names of its two sides. There must be nothing else in
it. -/
def Hunk.readSection? (oldName newName diff : Text) : Option (List Hunk) := do
  let lines := (← Text.dropPrefix? (renderHeader oldName newName) diff).split '\n'
  let (hunks, rest) ← Hunk.readLines? lines.length lines
  if rest = [[]] then some hunks else none

/-! ## Numbers -/

/-- A line that has changed, with its number in the text that it is a line of, counted from one. -/
structure NumberedLine where
  mark : Mark
  number : Nat
  text : Text
deriving DecidableEq, Repr

/-- The lines that have changed among marked lines, behind so many lines of the two sides. -/
def numbered : (old new : Nat) → List (Mark × Text) → List NumberedLine
  | _, _, [] => []
  | old, new, (.kept, _) :: ls => numbered (old + 1) (new + 1) ls
  | old, new, (.deleted, t) :: ls => ⟨.deleted, old + 1, t⟩ :: numbered (old + 1) new ls
  | old, new, (.inserted, t) :: ls => ⟨.inserted, new + 1, t⟩ :: numbered old (new + 1) ls

/-- The lines of a hunk that have changed. -/
def Hunk.changes (h : Hunk) : List NumberedLine := numbered h.oldStart h.newStart h.lines

/-! ## The lines around changes -/

/-- How many kept lines some marked lines begin with. -/
def keptRun (ls : List (Mark × Text)) : Nat := (ls.takeWhile fun l => l.1 = .kept).length

/-- A hunk ends on both sides before another begins. -/
structure Hunk.Before (h h' : Hunk) : Prop where
  old : h.oldStart + h.oldCount ≤ h'.oldStart
  new : h.newStart + h.newCount ≤ h'.newStart

/-- Hunks that come one after the other, with no more kept lines than the context at either end. -/
structure Framed (context : Nat) (hs : List Hunk) : Prop where
  ordered : hs.Pairwise Hunk.Before
  leading : ∀ h ∈ hs, keptRun h.lines ≤ context
  trailing : ∀ h ∈ hs, keptRun h.lines.reverse ≤ context

/-- The hunks that a reader finds in the section of a file changed in place. -/
def Renderer.reading? (r : Renderer) (path old new : Text) : Option (List Hunk) :=
  Hunk.readSection? (oldSideName path) (newSideName path) (r.modified path old new)

/-- With two contexts the same lines are seen to have changed between two texts, and they are framed
by the context. -/
def ContextOnly (path old new : Text) (c₁ c₂ : Nat) : Prop :=
  ∃ hs₁ hs₂, Renderer.reading? ⟨c₁⟩ path old new = some hs₁ ∧
    Renderer.reading? ⟨c₂⟩ path old new = some hs₂ ∧
    hs₁.flatMap Hunk.changes = hs₂.flatMap Hunk.changes ∧ Framed c₁ hs₁ ∧ Framed c₂ hs₂

end PatchTrail.Diff
