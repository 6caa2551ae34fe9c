import PatchTrail.Diff.Unified
import PatchTrail.Disk.Basic
import PatchTrail.Text.Replace

/-!
# Reading diffs

A diff is read back into the sections that it is made of (`Section.readAll?`). The lines of a hunk
are counted off the ranges in its header, so that a line of a file that looks like a header is not
taken for one. Applied to the old text, the hunks of a section rebuild the new one
(`Section.rebuild?`); every line that a hunk keeps or deletes must stand in the old text where the
hunk says.
-/

namespace PatchTrail.Diff

/-- A line of a hunk, or the remark that the line before it has no line end. -/
inductive HunkLine where
  | marked (mark : Mark) (text : Text)
  | remark
deriving DecidableEq, Repr

/-- A hunk as it is read back. Its place on the new side does not matter. -/
structure HunkReading where
  oldStart : Nat
  oldCount : Nat
  lines : List HunkLine
deriving DecidableEq, Repr

/-- The section of one file. -/
structure Section where
  oldName : Text
  newName : Text
  isBinary : Bool
  hunks : List HunkReading
deriving DecidableEq, Repr

/-! ## Reading -/

/-- The line that a line of a hunk is, if it is one. -/
def HunkLine.ofText? : Text → Option HunkLine
  | ' ' :: t => some (.marked .kept t)
  | '-' :: t => some (.marked .deleted t)
  | '+' :: t => some (.marked .inserted t)
  | '\\' :: _ => some .remark
  | _ => none

namespace HunkLine

/-- How many lines of the old side a line of a hunk is. -/
def oldCount : HunkLine → Nat
  | marked .kept _ => 1
  | marked .deleted _ => 1
  | _ => 0

/-- How many lines of the new side a line of a hunk is. -/
def newCount : HunkLine → Nat
  | marked .kept _ => 1
  | marked .inserted _ => 1
  | _ => 0

end HunkLine

/-- Reads the lines of a hunk of which so many lines of both sides are still to come, and a remark
behind the last of them. -/
def readHunkLines? : (old new : Nat) → List Text → Option (List HunkLine × List Text)
  | old, new, [] => if old = 0 ∧ new = 0 then some ([], []) else none
  | old, new, t :: rest =>
    match HunkLine.ofText? t with
    | none => if old = 0 ∧ new = 0 then some ([], t :: rest) else none
    | some line =>
      if old = 0 ∧ new = 0 ∧ line ≠ .remark then some ([], t :: rest)
      else
        (readHunkLines? (old - line.oldCount) (new - line.newCount) rest).map
          fun (lines, rest) => (line :: lines, rest)

/-- Reads a range: its first line and its length. -/
def readRange? (t : Text) : Option (Nat × Nat) :=
  match Text.cut? [','] t with
  | some (start, count) => do return (← Text.toNat? 10 start, ← Text.toNat? 10 count)
  | none => do return (← Text.toNat? 10 t, 1)

/-- Reads the header of a hunk, if a line is one: where the hunk begins on the old side, and how
many lines it has on both. -/
def readHunkHeader? (line : Text) : Option (Nat × Nat × Nat) := do
  let (ranges, _) ← Text.cut? " @@" (← Text.dropPrefix? "@@ -" line)
  let (old, new) ← Text.cut? " +" ranges
  let (start, count) ← readRange? old
  return (start, count, (← readRange? new).2)

/-- Reads hunks from the front of some lines, at most `bound` of them. -/
def readHunks? : (bound : Nat) → List Text → Option (List HunkReading × List Text)
  | 0, lines => some ([], lines)
  | _, [] => some ([], [])
  | bound + 1, line :: rest =>
    if line.startsWith "@@ -" then do
      let (oldStart, oldCount, newCount) ← readHunkHeader? line
      let (lines, rest) ← readHunkLines? oldCount newCount rest
      let (hunks, rest) ← readHunks? bound rest
      return (⟨oldStart, oldCount, lines⟩ :: hunks, rest)
    else some ([], line :: rest)

/-- Passes over the remark that a file is binary, if there is one. -/
def readBinaryRemark : List Text → Bool × List Text
  | [] => (false, [])
  | line :: rest => if line ++ ['\n'] = binaryRemark then (true, rest) else (false, line :: rest)

/-- Reads sections from some lines, at most `bound` of them with the empty lines between them. -/
def Section.readLines? : (bound : Nat) → List Text → Option (List Section)
  | _, [] => some []
  | 0, _ :: _ => none
  | bound + 1, [] :: rest => Section.readLines? bound rest
  | bound + 1, old :: rest => do
    let oldName ← Text.dropPrefix? "--- " old
    let newName ← Text.dropPrefix? "+++ " (← rest.head?)
    let (isBinary, rest) := readBinaryRemark rest.tail
    let (hunks, rest) ← readHunks? rest.length rest
    return ⟨oldName, newName, isBinary, hunks⟩ :: (← Section.readLines? bound rest)

/-- The sections of a diff. -/
def Section.readAll? (diff : Text) : Option (List Section) :=
  Section.readLines? (diff.split '\n').length (diff.split '\n')

/-! ## Applying -/

/-- A line without the line feeds at its end. -/
def dropFeeds (line : Text) : Text := line.dropEndWhile (· == '\n')

/-- Follows the lines of a hunk on lines of the old text: what they leave, and the old lines behind
them. `last` is the mark of the line before. -/
def applyLines? : (last : Mark) → List HunkLine → (done : Text) → (old : List Text) →
    Option (Text × List Text)
  | _, [], done, old => some (done, old)
  | last, .remark :: rest, done, old =>
    applyLines? last rest (if last = .inserted then done.dropLast else done) old
  | _, .marked .inserted t :: rest, done, old =>
    applyLines? .inserted rest (done ++ t ++ ['\n']) old
  | _, .marked .kept t :: rest, done, line :: old =>
    if dropFeeds line = t then applyLines? .kept rest (done ++ line) old else none
  | _, .marked .deleted t :: rest, done, line :: old =>
    if dropFeeds line = t then applyLines? .deleted rest done old else none
  | _, .marked .kept _ :: _, _, [] => none
  | _, .marked .deleted _ :: _, _, [] => none

/-- How many lines of the old side stand in front of a hunk. -/
def HunkReading.before? (h : HunkReading) : Option Nat :=
  if h.oldCount = 0 then some h.oldStart
  else if h.oldStart = 0 then none
  else some (h.oldStart - 1)

/-- Follows hunks on the lines of an old text, so many of which have been passed. -/
def applyHunks? : List HunkReading → (passed : Nat) → (old : List Text) → Option Text
  | [], _, old => some old.flatten
  | h :: rest, passed, old => do
    let before ← h.before?
    if before < passed ∨ old.length < before - passed then none
    let (done, left) ← applyLines? .kept h.lines [] (old.drop (before - passed))
    let count := old.length - left.length
    return (old.take (before - passed)).flatten ++ done
      ++ (← applyHunks? rest (passed + count) left)

/-- What the hunks of a section make of a text. -/
def Section.rebuild? (s : Section) (old : Text) : Option Text := applyHunks? s.hunks 0 old.lines

/-!
## Replaying

The sections of a diff say what has been done to the files below a directory. Done again in the
same order to the files as they were before, they lead to the files as they are now.
-/

/-- What a section says has been done to a file. -/
inductive Change where
  | created (path : Text)
  | deleted (path : Text)
  | edited (path : Text)
deriving DecidableEq, Repr

/-- What a section says has been done. -/
def Section.change? (s : Section) : Option Change :=
  match Text.dropPrefix? "a/" s.oldName, Text.dropPrefix? "b/" s.newName with
  | some path, some path' => if path = path' then some (.edited path) else none
  | none, some path => if s.oldName = nullSide then some (.created path) else none
  | some path, none => if s.newName = nullSide ∧ s.isBinary then some (.deleted path) else none
  | none, none => none

/-- The text that a section makes of a file's text. Without hunks it stays, line ends included. -/
def Section.edit? (s : Section) (text : Text) : Option Text :=
  if s.hunks = [] then some text else s.rebuild? (Text.normalizeLineEndings text)

/-- Does again what a section says, below a directory. -/
def Section.replay? (root : Text) (s : Section) (disk : Disk) : Option Disk := do
  match ← s.change? with
  | .created path =>
    let (disk, _) := disk.makeDirectories ((Path.parent? (Path.below root path)).getD [])
    (disk.write (Path.below root path) (Text.encode (← s.rebuild? []))).toOption
  | .deleted path => (disk.remove (Path.below root path)).toOption
  | .edited path => do
    let text ← (disk.readText (Path.below root path)).toOption
    (disk.write (Path.below root path) (Text.encode (← s.edit? text))).toOption

/-- Does again what a diff says, below a directory. -/
def replay? (root diff : Text) (disk : Disk) : Option Disk := do
  (← Section.readAll? diff).foldlM (fun disk s => s.replay? root disk) disk

end PatchTrail.Diff
